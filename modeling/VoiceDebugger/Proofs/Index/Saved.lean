import VoiceDebugger.Index.Store
import VoiceDebugger.Proofs.Json.RoundTrip
import VoiceDebugger.Proofs.Timestamp
import VoiceDebugger.Proofs.Workspace.Write

/-!
Saving an index and reading it back.

The saved form is plain text, so its bytes decode to the characters that were written, and those
parse to the value that was printed. What is taken over from that value is what was saved.
-/

namespace VoiceDebugger

open Json (PlainText PlainChar Legible LegibleItems LegibleFields overlong? overlongItems?
  overlongFields?)

/-! ### The bytes of plain text -/

theorem Text.decodeFrom_ascii (position : Nat) (a : UInt8) (rest : List UInt8) (small : a < 0x80) :
    Text.decodeFrom position (a :: rest) =
      (Text.decodeFrom (position + 1) rest).map (Char.ofNat a.toNat :: ·) := by
  rw [Text.decodeFrom.eq_def]
  simp only [small, ↓reduceIte]
  cases Text.decodeFrom (position + 1) rest <;> rfl

theorem Text.decodeFrom_plain (position : Nat) (cs : List Char) (plain : PlainText cs) :
    Text.decodeFrom position (cs.flatMap Text.encodeChar) = .ok cs := by
  induction cs generalizing position with
  | nil => rfl
  | cons c cs ih =>
    have small : c.toNat < 0x80 := by
      rcases plain c List.mem_cons_self with rfl | visible
      · decide
      · omega
    have byte : (UInt8.ofNat c.toNat).toNat = c.toNat := by
      rw [UInt8.toNat_ofNat']
      omega
    have encoded : Text.encodeChar c = [UInt8.ofNat c.toNat] := by
      simp only [Text.encodeChar, small, ↓reduceIte]
    have ascii : UInt8.ofNat c.toNat < 0x80 := by
      rw [UInt8.lt_iff_toNat_lt, byte]
      exact small
    rw [List.flatMap_cons, encoded, List.singleton_append, Text.decodeFrom_ascii _ _ _ ascii, byte,
      Char.ofNat_toNat, ih (position + 1) fun d mem => plain d (List.mem_cons_of_mem c mem)]
    rfl

theorem Text.unifyNewlines_plain (cs : List Char) (plain : PlainText cs) :
    Text.unifyNewlines cs = cs := by
  induction cs with
  | nil => rfl
  | cons c cs ih =>
    have other : c ≠ '\r' := by
      rintro rfl
      exact absurd (plain '\r' List.mem_cons_self) (by decide)
    rw [Text.unifyNewlines.eq_def]
    split
    · rename_i none_
      cases none_
    · rename_i equal
      cases equal
      exact absurd rfl other
    · rename_i equal
      cases equal
      exact absurd rfl other
    · rename_i equal
      cases equal
      rw [ih fun d mem => plain d (List.mem_cons_of_mem _ mem)]

/-- A plain text is the text of its bytes. -/
theorem textOf_encode_plain (s : String) (plain : PlainText s.toList) :
    textOf (Text.encode s) = .ok s.toList := by
  rw [textOf, Text.decode, Text.encode, Text.decodeFrom_plain 0 s.toList plain]
  simp only [Except.map, String.toList_ofList, Text.unifyNewlines_plain s.toList plain]

/-! ### What a saved value is made of -/

theorem CodeText.unpaired_ofString (s : String) : (CodeText.ofString s).Unpaired := by
  simp only [CodeText.Unpaired, CodeText.ofString]
  induction s.toList with
  | nil => exact List.isChain_nil
  | cons c cs ih =>
    rw [List.map_cons]
    refine List.IsChain.cons ih ?_
    simp [(Code.ofChar_whole c).1]

theorem Json.legibleItems_iff (items : List Json) :
    LegibleItems items ↔ ∀ v ∈ items, Legible v := by
  induction items with
  | nil => simp [LegibleItems]
  | cons v rest ih => simp [LegibleItems, ih]

theorem Json.legibleFields_iff (fields : List (CodeText × Json)) :
    LegibleFields fields ↔ ∀ f ∈ fields, f.1.Unpaired ∧ Legible f.2 := by
  induction fields with
  | nil => simp [LegibleFields]
  | cons f rest ih => simp [LegibleFields, ih, and_assoc]

theorem Json.overlongItems?_eq_none (items : List Json) :
    overlongItems? items = none ↔ ∀ v ∈ items, overlong? v = none := by
  induction items with
  | nil => simp [overlongItems?]
  | cons v rest ih => simp [overlongItems?, ih]

theorem Json.overlongFields?_eq_none (fields : List (CodeText × Json)) :
    overlongFields? fields = none ↔ ∀ f ∈ fields, overlong? f.2 = none := by
  induction fields with
  | nil => simp [overlongFields?]
  | cons f rest ih => simp [overlongFields?, ih]

/-- A text that reads back. -/
def IsText : Json → Prop
  | .str t => t.Unpaired
  | _ => False

instance : DecidablePred IsText
  | .str t => inferInstanceAs (Decidable t.Unpaired)
  | .null | .bool _ | .int _ | .float _ | .arr _ | .obj _ => isFalse id

/-- A whole number. -/
def IsWhole : Json → Prop
  | .int _ => True
  | _ => False

/-- No number with too many digits to be read. -/
def IsShort : Json → Prop
  | .int n => n.natAbs < 10 ^ Number.digitLimit
  | _ => True

theorem IsText.legible {v : Json} (text : IsText v) : Legible v ∧ overlong? v = none := by
  cases v with
  | str t => exact ⟨text, rfl⟩
  | _ => cases text

theorem IsWhole.legible {v : Json} (whole : IsWhole v) :
    Legible v ∧ (overlong? v = none ↔ IsShort v) := by
  cases v with
  | int n => exact ⟨trivial, Json.excess?_eq_none_iff n⟩
  | _ => cases whole

theorem legible_of_text_or_null {v : Json} (fits : IsText v ∨ v = .null) :
    Legible v ∧ overlong? v = none := by
  rcases fits with text | rfl
  · exact text.legible
  · exact ⟨trivial, rfl⟩

theorem legible_of_whole_or_null {v : Json} (fits : IsWhole v ∨ v = .null) :
    Legible v ∧ (overlong? v = none ↔ IsShort v) := by
  rcases fits with whole | rfl
  · exact whole.legible
  · exact ⟨trivial, by simp [overlong?, IsShort]⟩

/-- A record whose fields are of the kinds that a symbol has. -/
structure Record.Typed (r : Record) : Prop where
  name : IsText r.name
  kind : IsText r.kind
  file : IsText r.file
  line : IsWhole r.line
  column : IsWhole r.column
  endLine : IsWhole r.endLine ∨ r.endLine = .null
  scope : IsText r.scope ∨ r.scope = .null
  language : IsText r.language
  signature : IsText r.signature ∨ r.signature = .null
  documentation : IsText r.documentation ∨ r.documentation = .null

/-- A record whose numbers can be read. -/
structure Record.Short (r : Record) : Prop where
  line : IsShort r.line
  column : IsShort r.column
  endLine : IsShort r.endLine

theorem Record.legible_toJson (r : Record) (typed : r.Typed) : Legible r.toJson := by
  refine ⟨by simp only [List.map_cons, List.map_nil]; decide, ?_⟩
  rw [Json.legibleFields_iff]
  simp only [List.forall_mem_cons, CodeText.unpaired_ofString, true_and]
  exact ⟨typed.name.legible.1, typed.kind.legible.1, typed.file.legible.1, typed.line.legible.1,
    typed.column.legible.1, (legible_of_whole_or_null typed.endLine).1,
    (legible_of_text_or_null typed.scope).1, typed.language.legible.1,
    (legible_of_text_or_null typed.signature).1, (legible_of_text_or_null typed.documentation).1,
    by simp⟩

theorem Record.overlong?_toJson (r : Record) (typed : r.Typed) :
    overlong? r.toJson = none ↔ r.Short := by
  rw [Record.toJson, overlong?, Json.overlongFields?_eq_none]
  simp only [List.forall_mem_cons, typed.name.legible.2, typed.kind.legible.2, typed.file.legible.2,
    typed.line.legible.2, typed.column.legible.2, (legible_of_whole_or_null typed.endLine).2,
    (legible_of_text_or_null typed.scope).2, typed.language.legible.2,
    (legible_of_text_or_null typed.signature).2, (legible_of_text_or_null typed.documentation).2,
    true_and, List.not_mem_nil, false_implies, implies_true, and_true]
  exact ⟨fun ⟨line, column, endLine⟩ => ⟨line, column, endLine⟩,
    fun short => ⟨short.line, short.column, short.endLine⟩⟩

namespace Index

/-- An index whose parts are of the kinds that a build gives them. -/
structure Typed (i : Index) : Prop where
  files : ∃ table, i.files = .obj table ∧ (table.map Prod.fst).Nodup ∧
    ∀ f ∈ table, f.1.Unpaired ∧ IsText f.2
  names : (i.symbols.map Prod.fst).Nodup
  unpaired : ∀ group ∈ i.symbols, group.1.Unpaired
  records : ∀ r ∈ i.records, r.Typed
  time : ∀ t ∈ i.builtAt, t.IsLocal

theorem mem_records (i : Index) (r : Record) :
    r ∈ i.records ↔ ∃ group ∈ i.symbols, r ∈ group.2 := by
  simp only [records, List.mem_flatMap]

/-- The saved form of the records of a name. -/
def savedGroup (group : CodeText × List Record) : CodeText × Json :=
  (group.1, .arr (group.2.map Record.toJson))

/-- The fields of a saved index. -/
def savedFields (i : Index) : List (CodeText × Json) :=
  [("last_indexed", Json.ofString? (i.builtAt.map (·.text))),
    ("files", i.files),
    ("symbols", .obj (i.symbols.map savedGroup))]

theorem toJson_eq (i : Index) : i.toJson = .obj i.savedFields := rfl

theorem legible_builtAt (time : Option Timestamp) :
    Legible (Json.ofString? (time.map (·.text))) ∧
      overlong? (Json.ofString? (time.map (·.text))) = none := by
  cases time with
  | none => exact ⟨trivial, rfl⟩
  | some t => exact ⟨CodeText.unpaired_ofString t.text, rfl⟩

theorem legible_toJson (i : Index) (typed : i.Typed) : Legible i.toJson := by
  obtain ⟨table, files, distinct, texts⟩ := typed.files
  have tableLegible : Legible i.files := by
    rw [files]
    refine ⟨distinct, (Json.legibleFields_iff table).mpr fun f mem => ?_⟩
    exact ⟨(texts f mem).1, (texts f mem).2.legible.1⟩
  have groupsLegible : Legible (.obj (i.symbols.map savedGroup)) := by
    refine ⟨?_, (Json.legibleFields_iff _).mpr fun f mem => ?_⟩
    · rw [List.map_map]
      exact typed.names
    · obtain ⟨group, member, rfl⟩ := List.mem_map.mp mem
      refine ⟨typed.unpaired group member, (Json.legibleItems_iff _).mpr fun v inside => ?_⟩
      obtain ⟨r, present, rfl⟩ := List.mem_map.mp inside
      exact r.legible_toJson (typed.records r ((i.mem_records r).mpr ⟨group, member, present⟩))
  refine ⟨by simp only [List.map_cons, List.map_nil]; decide, (Json.legibleFields_iff _).mpr ?_⟩
  simp only [List.forall_mem_cons, CodeText.unpaired_ofString, true_and]
  exact ⟨(legible_builtAt i.builtAt).1, tableLegible, groupsLegible, by simp⟩

/-- The numbers of a saved index that might be too long are those of its records. -/
theorem overlong?_toJson (i : Index) (typed : i.Typed) :
    overlong? i.toJson = none ↔ ∀ r ∈ i.records, r.Short := by
  obtain ⟨table, files, -, texts⟩ := typed.files
  have tableShort : overlong? i.files = none := by
    rw [files, overlong?, Json.overlongFields?_eq_none]
    exact fun f mem => (texts f mem).2.legible.2
  have groupsShort : overlong? (.obj (i.symbols.map savedGroup)) = none ↔
      ∀ r ∈ i.records, r.Short := by
    rw [overlong?, Json.overlongFields?_eq_none, List.forall_mem_map]
    constructor
    · intro short r present
      obtain ⟨group, member, inside⟩ := (i.mem_records r).mp present
      have items := short group member
      rw [savedGroup, overlong?, Json.overlongItems?_eq_none, List.forall_mem_map] at items
      exact (r.overlong?_toJson (typed.records r present)).mp (items r inside)
    · intro short group member
      rw [savedGroup, overlong?, Json.overlongItems?_eq_none, List.forall_mem_map]
      intro r inside
      have present : r ∈ i.records := (i.mem_records r).mpr ⟨group, member, inside⟩
      exact (r.overlong?_toJson (typed.records r present)).mpr (short r present)
  rw [toJson_eq, overlong?, Json.overlongFields?_eq_none]
  simp only [savedFields, List.forall_mem_cons, (legible_builtAt i.builtAt).2, tableShort,
    groupsShort, true_and, List.not_mem_nil, false_implies, implies_true, and_true]

/-! ### Reading a saved index -/

theorem isName_fileName : IsName fileName :=
  ⟨by decide, by decide, by decide, by decide, by decide, by decide⟩

/-- A saved value reads back, unless a number in it is too long. -/
theorem readSaved_indented (root : Folder) (i : Index) (step : Nat) (v : Json) (legible : Legible v)
    (there : readBytes root i.savedAt = .ok (Text.encode (v.indented step 0))) :
    readSaved root i = (overlong? v).elim (some v) fun _ => none := by
  rw [readSaved, there]
  simp only [textOf_encode_plain _ (Json.plainText_indented step 0 v legible),
    Json.parse_indented step v legible]
  cases overlong? v <;> rfl

/-- What is read where an index was saved. -/
theorem readSaved_written (root root' : Folder) (i j : Index) (same : j.base = i.base)
    (typed : i.Typed) (written : writeFile root i.savedAt i.savedBytes = .ok root') :
    readSaved root' j = (overlong? i.toJson).elim (some i.toJson) fun _ => none := by
  refine readSaved_indented root' j 2 i.toJson (i.legible_toJson typed) ?_
  rw [savedAt, same]
  exact readBytes_writeFile root root' i.base fileName i.savedBytes isName_fileName written

theorem ofJson?_toJson (r : Record) : Record.ofJson? r.toJson = some r := by
  rfl

theorem recordsOf?_toJson (rs : List Record) : recordsOf? (rs.map Record.toJson) = some rs := by
  induction rs with
  | nil => rfl
  | cons r rest ih =>
    rw [List.map_cons, recordsOf?, ofJson?_toJson, ih]
    rfl

theorem recordsIn?_savedGroup (rs : List Record) :
    recordsIn? (.arr (rs.map Record.toJson)) = some rs :=
  recordsOf?_toJson rs

theorem setUnder_new {α : Type} (name : CodeText) (as : List α) (groups : List (CodeText × List α))
    (new : name ∉ groups.map Prod.fst) : setUnder name as groups = groups ++ [(name, as)] := by
  induction groups with
  | nil => rfl
  | cons g rest ih =>
    simp only [List.map_cons, List.mem_cons, not_or] at new
    rw [setUnder, if_neg (by simpa using Ne.symm new.1), ih new.2]
    rfl

/-- Groups of new names are all taken over, behind what is there. -/
theorem takeSymbols_saved (i : Index) (groups : List (CodeText × List Record))
    (distinct : ((i.symbols ++ groups).map Prod.fst).Nodup) :
    i.takeSymbols (groups.map savedGroup) = (true, { i with symbols := i.symbols ++ groups }) := by
  induction groups generalizing i with
  | nil => simp [takeSymbols]
  | cons g rest ih =>
    have new : g.1 ∉ i.symbols.map Prod.fst := by
      rw [List.map_append, List.map_cons, List.nodup_append] at distinct
      intro old
      exact distinct.2.2 g.1 old g.1 List.mem_cons_self rfl
    rw [List.map_cons, savedGroup, takeSymbols, recordsIn?_savedGroup]
    simp only [setUnder_new g.1 g.2 i.symbols new]
    rw [ih]
    · simp only [List.append_assoc, List.singleton_append]
    · simpa using distinct

theorem timeIn?_savedFields (i : Index) (typed : i.Typed) :
    timeIn? i.savedFields = some i.builtAt := by
  have time : Json.field? "last_indexed" i.savedFields =
    some (Json.ofString? (i.builtAt.map (·.text))) := rfl
  rw [timeIn?, time]
  cases built : i.builtAt with
  | none => rfl
  | some t =>
    have back := Timestamp.read?_text t (typed.time t built)
    have some_ : Json.truthy (.str (CodeText.ofString t.text)) = true := by
      simp only [Json.truthy, CodeText.isEmpty, CodeText.ofString, Bool.not_eq_true',
        List.isEmpty_eq_false_iff]
      intro empty
      rw [List.map_eq_nil_iff, String.toList_eq_nil_iff] at empty
      rw [empty] at back
      cases back
    simp only [Option.map_some, Json.ofString?, Option.getD_some, some_, CodeText.shown_ofString,
      back]
    rfl

/-- What an index takes over from another one's saved form. -/
theorem takeOver_savedFields (i j : Index) (typed : i.Typed) :
    j.takeOver i.savedFields =
      (true, { j with files := i.files, symbols := i.symbols, builtAt := i.builtAt }) := by
  have files : filesIn i.savedFields = i.files := rfl
  have groups : groupsIn? i.savedFields = some (i.symbols.map savedGroup) := rfl
  rw [takeOver, timeIn?_savedFields i typed, groups, files]
  exact takeSymbols_saved _ i.symbols typed.names

/-- Where a saved index can be written, loading restores it exactly; a save that cannot be written
changes nothing. -/
theorem load_save (root : Folder) (i j : Index) (same : j.base = i.base) (typed : i.Typed)
    (short : ∀ r ∈ i.records, r.Short) :
    (∀ f, Writable root i.base fileName f →
      j.load (i.save root) =
        (true, { j with files := i.files, symbols := i.symbols, builtAt := i.builtAt })) ∧
    ((∀ f, ¬ Writable root i.base fileName f) → i.save root = root) := by
  constructor
  · intro f writable
    have written := writeFile_of_writable root f i.base fileName i.savedBytes isName_fileName writable
    rw [load, save, savedAt, written, readSaved_written root _ i j same typed written,
      (i.overlong?_toJson typed).mpr short]
    exact takeOver_savedFields i j typed
  · intro unwritable
    rw [save]
    cases written : writeFile root i.savedAt i.savedBytes with
    | error fault => rfl
    | ok root' =>
      obtain ⟨f, writable, -⟩ := writeFile_ok root root' i.base fileName _ isName_fileName written
      exact absurd writable (unwritable f)

/-- An index of one symbol: its name is half of a pair, and its documentation holds a quote, a line
feed and a character of two code units. -/
def halfNamed : Index where
  base := "."
  symbols := [(⟨[Code.ofNat 0xD800]⟩, [{
    name := .str ⟨[Code.ofNat 0xD800]⟩, kind := .str "variable", file := .str "a.py"
    line := .int 1, documentation := .str "\"\n😀" }])]
  files := .obj [("a.py", .str "0")]
  builtAt := some { year := 2024, month := 2, day := 29, microsecond := 7 }

theorem records_halfNamed (p : Record → Prop) :
    (∀ r ∈ halfNamed.records, p r) ↔ p {
      name := .str ⟨[Code.ofNat 0xD800]⟩, kind := .str "variable", file := .str "a.py"
      line := .int 1, documentation := .str "\"\n😀" } := by
  simp only [halfNamed, records, List.flatMap_cons, List.flatMap_nil, List.append_nil,
    List.forall_mem_singleton]

theorem typed_halfNamed : halfNamed.Typed where
  files := ⟨[("a.py", .str "0")], rfl, by decide, by decide⟩
  names := by decide
  unpaired := by
    simp only [halfNamed, List.forall_mem_singleton]
    decide
  records := (records_halfNamed _).mpr ⟨by decide, by decide, by decide, trivial, trivial, .inr rfl,
    .inr rfl, by decide, .inr rfl, .inl (by decide)⟩
  time := by
    rintro t ⟨⟩
    exact ⟨by decide, by decide, rfl⟩

theorem load_save_halfNamed :
    halfNamed.Typed ∧ (∀ r ∈ halfNamed.records, r.Short) ∧ Writable [] "." fileName [] ∧
      Index.load (halfNamed.save []) { base := ".", symbols := [("old", [])] } =
        (true, halfNamed) := by
  have short : ∀ r ∈ halfNamed.records, r.Short :=
    (records_halfNamed _).mpr
      ⟨Nat.one_lt_pow (by decide) (by decide), Nat.pow_pos (by decide), trivial⟩
  have writable : Writable [] "." fileName [] := ⟨by decide, rfl, by decide, by simp [Folder.find?]⟩
  exact ⟨typed_halfNamed, short, writable,
    (load_save [] halfNamed { base := ".", symbols := [("old", [])] } rfl typed_halfNamed short).1 []
      writable⟩

/-- An index that holds nothing, saved where a folder has the name of its file. -/
theorem load_save_occupied :
    (Index.empty ".").Typed ∧ (∀ r ∈ (Index.empty ".").records, r.Short) ∧
      ((Index.empty ".").load ((Index.empty ".").save [(fileName, .folder [])])).1 = false := by
  refine ⟨⟨⟨[], rfl, by decide, by simp⟩, by decide, ?_, ?_, ?_⟩, ?_, rfl⟩ <;>
    simp [Index.empty, records]

end Index

end VoiceDebugger
