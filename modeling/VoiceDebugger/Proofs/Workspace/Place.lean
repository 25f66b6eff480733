import VoiceDebugger.Workspace.Path

/-!
Following a path, and the place in the tree that it ends at.
-/

namespace VoiceDebugger

/-! ### Cutting a path into its parts -/

theorem Text.splitAtChar_ne_nil (sep : Char) (cs : List Char) : Text.splitAtChar sep cs ≠ [] := by
  cases cs with
  | nil => simp [Text.splitAtChar]
  | cons c rest =>
    rw [Text.splitAtChar]
    split
    · simp
    · split <;> simp

theorem Text.splitAtChar_append (sep : Char) (cs ds : List Char) :
    Text.splitAtChar sep (cs ++ sep :: ds) = Text.splitAtChar sep cs ++ Text.splitAtChar sep ds := by
  induction cs with
  | nil => simp [Text.splitAtChar]
  | cons c cs ih =>
    rw [List.cons_append, Text.splitAtChar, Text.splitAtChar, ih]
    split
    · rfl
    · obtain ⟨piece, pieces, equal⟩ := List.exists_cons_of_ne_nil (Text.splitAtChar_ne_nil sep cs)
      rw [equal]
      rfl

theorem Text.splitAtChar_whole (sep : Char) (cs : List Char) (apart : sep ∉ cs) :
    Text.splitAtChar sep cs = [cs] := by
  induction cs with
  | nil => rfl
  | cons c cs ih =>
    simp only [List.mem_cons, not_or] at apart
    rw [Text.splitAtChar, ih apart.2, beq_eq_false_iff_ne.mpr (Ne.symm apart.1)]
    rfl

theorem Text.splitOn_append (a b : String) :
    Text.splitOn '/' (a ++ "/" ++ b) = Text.splitOn '/' a ++ Text.splitOn '/' b := by
  simp only [Text.splitOn, String.toList_append, List.append_assoc]
  rw [← List.map_append, ← Text.splitAtChar_append]
  rfl

theorem Text.splitOn_whole (name : String) (apart : '/' ∉ name.toList) :
    Text.splitOn '/' name = [name] := by
  simp only [Text.splitOn, Text.splitAtChar_whole '/' name.toList apart, List.map_cons,
    List.map_nil, String.ofList_toList]

/-! ### Entries by place -/

/-- The entry at a place below an entry. -/
def Entry.at? : List String → Entry → Option Entry
  | [], e => some e
  | _ :: _, .file _ => none
  | name :: rest, .folder f => (Folder.find? name f).bind (Entry.at? rest)

theorem Folder.find?_set (name : String) (e : Entry) (f : Folder) :
    (f.set name e).find? name = some e := by
  induction f with
  | nil => simp [Folder.set, Folder.find?]
  | cons p rest ih =>
    rw [Folder.set]
    split
    · rename_i equal
      simp [Folder.find?, equal]
    · split
      · simp [Folder.find?]
      · rename_i differ _
        simp only [Folder.find?, differ, Bool.false_eq_true, ↓reduceIte]
        exact ih

theorem Folder.find?_set_other (name other : String) (e : Entry) (f : Folder)
    (apart : other ≠ name) : (f.set name e).find? other = f.find? other := by
  have differ : (name == other) = false := beq_eq_false_iff_ne.mpr (Ne.symm apart)
  induction f with
  | nil => simp [Folder.set, Folder.find?, differ]
  | cons p rest ih =>
    rw [Folder.set]
    split
    · rename_i equal
      have key : p.1 = name := beq_iff_eq.mp equal
      simp [Folder.find?, key, differ]
    · split
      · simp [Folder.find?, differ]
      · simp only [Folder.find?, ih]

theorem Folder.sub_of_find? (name : String) (f g : Folder) (found : f.find? name = some (.folder g)) :
    f.sub name = g := by
  simp [Folder.sub, found]

theorem Folder.put_cons (e : Entry) (name next : String) (rest : List String) (f : Folder) :
    f.put e (name :: next :: rest) =
      f.set name (.folder (Folder.put e (next :: rest) (f.sub name))) :=
  rfl

/-- The folders on the way to a folder. -/
theorem Entry.at?_folder_cons (name : String) (rest : List String) (f g : Folder)
    (found : Entry.at? (name :: rest) (.folder f) = some (.folder g)) :
    ∃ h, f.find? name = some (.folder h) ∧ Entry.at? rest (.folder h) = some (.folder g) := by
  rw [Entry.at?] at found
  obtain ⟨e, entry, below⟩ := Option.bind_eq_some_iff.mp found
  cases e with
  | folder h => exact ⟨h, entry, below⟩
  | file content =>
    cases rest with
    | nil => cases below
    | cons next more => cases below

theorem Entry.at?_append (first second : List String) (e : Entry) :
    Entry.at? (first ++ second) e = (Entry.at? first e).bind (Entry.at? second) := by
  induction first generalizing e with
  | nil => rfl
  | cons name rest ih =>
    cases e with
    | file content => rfl
    | folder f =>
      rw [List.cons_append, Entry.at?, Entry.at?, Option.bind_assoc]
      congr 1
      funext next
      exact ih next

/-- An entry that is put into a folder is there, and the folder is as before else. -/
theorem Folder.at?_put (e : Entry) (name : String) (place : List String) (f g : Folder)
    (found : Entry.at? place (.folder f) = some (.folder g)) :
    Entry.at? place (.folder (f.put e (place ++ [name]))) = some (.folder (g.set name e)) := by
  induction place generalizing f with
  | nil =>
    cases found
    rfl
  | cons next rest ih =>
    obtain ⟨h, entry, below⟩ := Entry.at?_folder_cons next rest f g found
    have step : f.put e (next :: rest ++ [name]) =
        f.set next (.folder (Folder.put e (rest ++ [name]) h)) := by
      rw [← Folder.sub_of_find? next f h entry]
      cases rest <;> rfl
    rw [step, Entry.at?, Folder.find?_set, Option.bind_some]
    exact ih h below

/-- A folder stays one where the way to it does not pass what is put. -/
theorem Folder.at?_put_other (e : Entry) (target place : List String) (f g : Folder)
    (some_ : target ≠ []) (apart : ¬ target <+: place)
    (found : Entry.at? place (.folder f) = some (.folder g)) :
    ∃ h, Entry.at? place (.folder (f.put e target)) = some (.folder h) := by
  induction target generalizing place f with
  | nil => exact absurd rfl some_
  | cons name rest ih =>
    cases place with
    | nil => exact ⟨_, rfl⟩
    | cons next more =>
      obtain ⟨h, entry, below⟩ := Entry.at?_folder_cons next more f g found
      have other : next ≠ name → ∀ x : Entry,
          Entry.at? (next :: more) (.folder (f.set name x)) = some (.folder g) := by
        intro differ x
        rw [Entry.at?, Folder.find?_set_other name next x f differ, entry]
        exact below
      by_cases differ : next = name
      · subst differ
        cases rest with
        | nil => exact absurd (by simp) apart
        | cons third others =>
          rw [Folder.put_cons, Folder.sub_of_find? next f h entry, Entry.at?, Folder.find?_set,
            Option.bind_some]
          refine ih more h (by simp) ?_ below
          intro inside
          exact apart (List.cons_prefix_cons.mpr ⟨rfl, inside⟩)
      · cases rest with
        | nil => exact ⟨g, other differ e⟩
        | cons third others => exact ⟨g, other differ _⟩

/-! ### Following a path -/

theorem follow_nil (path : String) (above : List Folder) (e : Entry) :
    follow path above e [] = .ok e := by
  cases e <;> rfl

theorem follow_skip (path part : String) (above : List Folder) (f : Folder) (rest : List String)
    (skipped : (part == "" || part == ".") = true) :
    follow path above (.folder f) (part :: rest) = follow path above (.folder f) rest :=
  if_pos skipped

theorem follow_name (path part : String) (above : List Folder) (f : Folder) (rest : List String)
    (skipped : (part == "" || part == ".") = false) (up : (part == "..") = false) :
    follow path above (.folder f) (part :: rest) =
      if (Text.encode part).length > maxNameBytes then .error (.tooLong path)
      else match f.find? part with
        | some e => follow path (f :: above) e rest
        | none => .error (.missing path) :=
  (if_neg (ne_true_of_eq_false skipped)).trans (if_neg (ne_true_of_eq_false up))

/-- What a name leads to from a folder. -/
theorem follow_name_ok (path part : String) (above : List Folder) (f : Folder) (rest : List String)
    (x : Entry) (skipped : (part == "" || part == ".") = false) (up : (part == "..") = false)
    (found : follow path above (.folder f) (part :: rest) = .ok x) :
    (Text.encode part).length ≤ maxNameBytes ∧
      ∃ e, f.find? part = some e ∧ follow path (f :: above) e rest = .ok x := by
  rw [follow_name path part above f rest skipped up] at found
  by_cases long : (Text.encode part).length > maxNameBytes
  · rw [if_pos long] at found
    cases found
  · rw [if_neg long] at found
    cases entry : f.find? part with
    | none =>
      rw [entry] at found
      cases found
    | some e =>
      rw [entry] at found
      exact ⟨Nat.not_lt.mp long, e, rfl, found⟩

/-- What is followed does not depend on how faults name the path, and once a first part of it is
followed the rest goes on from there. -/
theorem follow_append (path other : String) (above : List Folder) (e x : Entry)
    (parts : List String) (found : follow path above e parts = .ok x) :
    ∃ above', ∀ more, follow other above e (parts ++ more) = follow other above' x more := by
  induction parts generalizing above e with
  | nil =>
    rw [follow_nil] at found
    cases found
    exact ⟨above, fun _ => rfl⟩
  | cons part rest ih =>
    cases e with
    | file content => cases found
    | folder f =>
      simp only [List.cons_append]
      by_cases skipped : (part == "" || part == ".") = true
      · rw [follow_skip path part above f rest skipped] at found
        simp only [follow_skip other part above f _ skipped]
        exact ih above _ found
      by_cases up : (part == "..") = true
      · rw [beq_iff_eq] at up
        subst up
        cases above with
        | nil => exact ih [] _ found
        | cons g above => exact ih above _ found
      rw [Bool.not_eq_true] at skipped up
      obtain ⟨short, y, entry, below⟩ := follow_name_ok path part above f rest x skipped up found
      simp only [follow_name other part above f _ skipped up, if_neg (Nat.not_lt.mpr short), entry]
      exact ih (f :: above) y below

theorem follow_append_error (path : String) (above : List Folder) (e : Entry) (fault : FileFault)
    (parts more : List String) (lost : follow path above e parts = .error fault) :
    follow path above e (parts ++ more) = .error fault := by
  induction parts generalizing above e with
  | nil =>
    rw [follow_nil] at lost
    cases lost
  | cons part rest ih =>
    cases e with
    | file content => exact lost
    | folder f =>
      rw [List.cons_append]
      by_cases skipped : (part == "" || part == ".") = true
      · rw [follow_skip path part above f _ skipped] at lost ⊢
        exact ih above _ lost
      by_cases up : (part == "..") = true
      · rw [beq_iff_eq] at up
        subst up
        cases above with
        | nil => exact ih [] _ lost
        | cons g above => exact ih above _ lost
      rw [Bool.not_eq_true] at skipped up
      rw [follow_name path part above f _ skipped up] at lost ⊢
      by_cases long : (Text.encode part).length > maxNameBytes
      · rw [if_pos long] at lost ⊢
        exact lost
      · rw [if_neg long] at lost ⊢
        cases entry : Folder.find? part f with
        | none =>
          rw [entry] at lost
          exact lost
        | some y =>
          rw [entry] at lost
          exact ih (f :: above) y lost

/-- Nothing is found outside. -/
theorem follow_outside (path : String) (e : Entry) (parts : List String)
    (found : follow path [] (.folder []) parts = .ok e) : e = .folder [] := by
  induction parts with
  | nil =>
    cases found
    rfl
  | cons part rest ih =>
    by_cases skipped : (part == "" || part == ".") = true
    · rw [follow_skip path part [] [] rest skipped] at found
      exact ih found
    by_cases up : (part == "..") = true
    · rw [beq_iff_eq] at up
      subst up
      exact ih found
    rw [Bool.not_eq_true] at skipped up
    obtain ⟨-, y, entry, -⟩ := follow_name_ok path part [] [] rest e skipped up found
    cases entry

/-! ### Standing in a folder -/

/-- A folder that lies at a place, and the folders that it lies in, the nearest first. -/
inductive Stands (root : Folder) : List Folder → Folder → List String → Prop where
  | top : Stands root [] root []
  | down (above : List Folder) (f g : Folder) (place : List String) (name : String)
      (standing : Stands root above f place) (found : f.find? name = some (.folder g)) :
      Stands root (f :: above) g (place ++ [name])

theorem Stands.at? {root : Folder} {above : List Folder} {f : Folder} {place : List String}
    (standing : Stands root above f place) :
    Entry.at? place (.folder root) = some (.folder f) := by
  induction standing with
  | top => rfl
  | down above f g place name standing found ih =>
    rw [Entry.at?_append, ih, Option.bind_some, Entry.at?, found]
    rfl

theorem Stands.length {root : Folder} {above : List Folder} {f : Folder} {place : List String}
    (standing : Stands root above f place) : above.length = place.length := by
  induction standing with
  | top => rfl
  | down above f g place name standing found ih => simp [ih]

theorem Stands.up {root : Folder} {above : List Folder} {f g : Folder} {place : List String}
    (standing : Stands root (f :: above) g place) : Stands root above f place.dropLast := by
  cases standing with
  | down _ _ _ place name standing found =>
    rw [List.dropLast_concat]
    exact standing

/-- The steps that parts without empty ones and dots lead from a place. -/
def placeFrom (place parts : List String) : List String :=
  parts.foldl (fun place p => if p == ".." then place.dropLast else place ++ [p]) place

/-- A part that is a name or a step up. -/
def isPlainPart (p : String) : Bool :=
  p != "" && p != "."

theorem isPlainPart_eq (p : String) : isPlainPart p = !(p == "" || p == ".") := by
  simp only [isPlainPart, bne, Bool.not_or]

theorem plainParts_eq (path : String) :
    plainParts path = (Text.splitOn '/' path).filter isPlainPart := rfl

theorem leadsOut_name (depth : Nat) (part : String) (rest : List String)
    (up : (part == "..") = false) : leadsOut depth (part :: rest) = leadsOut (depth + 1) rest := by
  rw [leadsOut.eq_def]
  simp only [up, Bool.false_eq_true, ↓reduceIte]

/-- A way that stays inside is the same in a tree that has a folder wherever this one has. -/
theorem follow_kept (path other : String) (root root' : Folder)
    (kept : ∀ place f, Entry.at? place (.folder root) = some (.folder f) →
      ∃ g, Entry.at? place (.folder root') = some (.folder g))
    (parts : List String) (above above' : List Folder) (f f' g : Folder) (place : List String)
    (standing : Stands root above f place) (standing' : Stands root' above' f' place)
    (inside : leadsOut place.length (parts.filter isPlainPart) = false)
    (found : follow path above (.folder f) parts = .ok (.folder g)) :
    ∃ above'' g', Stands root' above'' g' (placeFrom place (parts.filter isPlainPart)) ∧
      ∀ more, follow other above' (.folder f') (parts ++ more) =
        follow other above'' (.folder g') more := by
  induction parts generalizing above above' f f' place with
  | nil => exact ⟨above', f', standing', fun _ => rfl⟩
  | cons part rest ih =>
    simp only [List.cons_append]
    by_cases skipped : (part == "" || part == ".") = true
    · rw [follow_skip path part above f rest skipped] at found
      rw [List.filter_cons_of_neg (by simp [isPlainPart_eq, skipped])] at inside ⊢
      simp only [follow_skip other part above' f' _ skipped]
      exact ih above above' f f' place standing standing' inside found
    rw [Bool.not_eq_true] at skipped
    rw [List.filter_cons_of_pos (by simp [isPlainPart_eq, skipped])] at inside ⊢
    by_cases up : (part == "..") = true
    · rw [beq_iff_eq] at up
      subst up
      have same : above.length = above'.length := by rw [standing.length, standing'.length]
      cases above with
      | nil =>
        rw [← standing.length] at inside
        cases inside
      | cons h above =>
        cases above' with
        | nil => cases same
        | cons h' above' =>
          refine ih above above' h h' place.dropLast standing.up standing'.up ?_ found
          have deep : place.length = place.dropLast.length + 1 := by
            have := standing.length
            rw [List.length_dropLast]
            simp only [List.length_cons] at this
            omega
          rw [deep] at inside
          exact inside
    · rw [Bool.not_eq_true] at up
      obtain ⟨short, e, entry, below⟩ :=
        follow_name_ok path part above f rest _ skipped up found
      have isFolder : ∃ h, e = .folder h := by
        cases e with
        | folder h => exact ⟨h, rfl⟩
        | file content => cases rest <;> cases below
      obtain ⟨h, rfl⟩ := isFolder
      have lower := Stands.down above f h place part standing entry
      obtain ⟨h', there⟩ := kept _ h lower.at?
      have entry' : f'.find? part = some (.folder h') := by
        rw [Entry.at?_append, standing'.at?, Option.bind_some] at there
        obtain ⟨k, found', same⟩ := Entry.at?_folder_cons part [] f' h' there
        cases same
        exact found'
      have lower' := Stands.down above' f' h' place part standing' entry'
      simp only [follow_name other part above' f' _ skipped up, if_neg (Nat.not_lt.mpr short),
        entry']
      have goes : placeFrom place (part :: rest.filter isPlainPart) =
          placeFrom (place ++ [part]) (rest.filter isPlainPart) := by
        simp only [placeFrom, List.foldl_cons, up, Bool.false_eq_true, ↓reduceIte]
      rw [goes]
      refine ih (f :: above) (f' :: above') h h' (place ++ [part]) lower lower' ?_ below
      rw [leadsOut_name _ part _ up] at inside
      rw [List.length_append]
      exact inside

/-- Nothing is found by a way that leads out. -/
theorem follow_leadsOut (path : String) (root : Folder) (parts : List String)
    (above : List Folder) (f : Folder) (place : List String) (e : Entry)
    (standing : Stands root above f place)
    (out : leadsOut place.length (parts.filter isPlainPart) = true)
    (found : follow path above (.folder f) parts = .ok e) : e = .folder [] := by
  induction parts generalizing above f place with
  | nil => cases out
  | cons part rest ih =>
    by_cases skipped : (part == "" || part == ".") = true
    · rw [follow_skip path part above f rest skipped] at found
      rw [List.filter_cons_of_neg (by simp [isPlainPart_eq, skipped])] at out
      exact ih above f place standing out found
    rw [Bool.not_eq_true] at skipped
    rw [List.filter_cons_of_pos (by simp [isPlainPart_eq, skipped])] at out
    by_cases up : (part == "..") = true
    · rw [beq_iff_eq] at up
      subst up
      cases above with
      | nil => exact follow_outside path e rest found
      | cons h above =>
        refine ih above h place.dropLast standing.up ?_ found
        have deep : place.length = place.dropLast.length + 1 := by
          have := standing.length
          rw [List.length_dropLast]
          simp only [List.length_cons] at this
          omega
        rw [deep] at out
        exact out
    · rw [Bool.not_eq_true] at up
      obtain ⟨-, y, entry, below⟩ := follow_name_ok path part above f rest _ skipped up found
      rw [leadsOut_name _ part _ up] at out
      cases y with
      | folder h =>
        refine ih (f :: above) h (place ++ [part]) (.down above f h place part standing entry) ?_ below
        rw [List.length_append]
        exact out
      | file content =>
        cases rest with
        | nil => cases out
        | cons next more => cases below

end VoiceDebugger
