import Mathlib.Data.List.Nodup
import VoiceDebugger.Proofs.Workspace.Write

/-!
What a walk finds.

A walk lists entries by their places. In a well-formed tree it finds each entry that passes its test
once, and no other; the entries of a folder come before those further inside, and both in the order
in which the folder lists them. No listing need be by name.
-/

namespace VoiceDebugger

/-! ### Well-formed trees -/

mutual

/-- The names in every folder are names, each once. -/
def Entry.WellFormed : Entry → Prop
  | .file _ => True
  | .folder es => (es.map Prod.fst).Nodup ∧ (∀ e ∈ es, IsName e.1) ∧ WellFormedEntries es

/-- The entries of a folder are well formed. -/
def WellFormedEntries : List (String × Entry) → Prop
  | [] => True
  | (_, e) :: rest => e.WellFormed ∧ WellFormedEntries rest

end

/-- A well-formed folder. -/
def Folder.WellFormed (f : Folder) : Prop :=
  Entry.WellFormed (.folder f)

theorem wellFormedEntries_iff (es : List (String × Entry)) :
    WellFormedEntries es ↔ ∀ e ∈ es, e.2.WellFormed := by
  induction es with
  | nil => simp [WellFormedEntries]
  | cons e rest ih => simp [WellFormedEntries, ih]

theorem Folder.mem_of_find? (name : String) (e : Entry) (f : Folder)
    (found : f.find? name = some e) : (name, e) ∈ f := by
  induction f with
  | nil => cases found
  | cons p rest ih =>
    rw [Folder.find?] at found
    split at found
    · rename_i equal
      cases found
      rw [← beq_iff_eq.mp equal]
      exact List.mem_cons_self
    · exact List.mem_cons_of_mem _ (ih found)

theorem Folder.find?_of_mem (name : String) (e : Entry) (f : Folder)
    (distinct : (f.map Prod.fst).Nodup) (member : (name, e) ∈ f) : f.find? name = some e := by
  induction f with
  | nil => cases member
  | cons p rest ih =>
    rw [List.map_cons, List.nodup_cons] at distinct
    rw [Folder.find?]
    rcases List.mem_cons.mp member with rfl | later
    · simp
    · have differ : p.1 ≠ name := by
        rintro rfl
        exact distinct.1 (List.mem_map.mpr ⟨_, later, rfl⟩)
      rw [if_neg (by simpa using differ)]
      exact ih distinct.2 later

theorem Folder.not_mem_of_find?_eq_none (name : String) (f : Folder) (absent : f.find? name = none) :
    name ∉ f.map Prod.fst := by
  induction f with
  | nil => exact List.not_mem_nil
  | cons p rest ih =>
    rw [Folder.find?] at absent
    split at absent
    · cases absent
    · rename_i differ
      rw [List.map_cons, List.mem_cons, not_or]
      exact ⟨fun same => differ (beq_iff_eq.mpr same.symm), ih absent⟩

theorem Folder.wellFormed_find? (f : Folder) (name : String) (e : Entry) (well : f.WellFormed)
    (found : f.find? name = some e) : IsName name ∧ e.WellFormed := by
  have member := Folder.mem_of_find? name e f found
  exact ⟨well.2.1 _ member, (wellFormedEntries_iff f).mp well.2.2 _ member⟩

theorem Folder.mem_set (name : String) (e : Entry) (f : Folder) (p : String × Entry)
    (member : p ∈ f.set name e) : p = (name, e) ∨ p ∈ f := by
  induction f with
  | nil => exact .inl (List.mem_singleton.mp member)
  | cons q rest ih =>
    rw [Folder.set] at member
    split at member
    · rename_i same
      rcases List.mem_cons.mp member with rfl | later
      · exact .inl (by rw [beq_iff_eq.mp same])
      · exact .inr (List.mem_cons_of_mem _ later)
    · split at member
      · exact List.mem_cons.mp member
      · rcases List.mem_cons.mp member with rfl | later
        · exact .inr List.mem_cons_self
        · exact (ih later).imp_right (List.mem_cons_of_mem _)

theorem Folder.nodup_set (name : String) (e : Entry) (f : Folder)
    (distinct : (f.map Prod.fst).Nodup) : ((f.set name e).map Prod.fst).Nodup := by
  induction f with
  | nil => exact List.nodup_singleton name
  | cons q rest ih =>
    obtain ⟨apart, later⟩ := List.nodup_cons.mp distinct
    rw [Folder.set]
    split
    · exact distinct
    · rename_i differ
      rw [beq_iff_eq] at differ
      split
      · rename_i new
        rw [Bool.and_eq_true, Option.isNone_iff_eq_none] at new
        refine List.nodup_cons.mpr ⟨fun member => ?_, distinct⟩
        rcases List.mem_cons.mp member with same | later
        · exact differ same.symm
        · exact Folder.not_mem_of_find?_eq_none name rest new.2 later
      · refine List.nodup_cons.mpr ⟨fun member => ?_, ih later⟩
        obtain ⟨p, present, same⟩ := List.mem_map.mp member
        rcases Folder.mem_set name e rest p present with rfl | old
        · exact differ same.symm
        · exact apart (same ▸ List.mem_map_of_mem old)

theorem Folder.wellFormed_set (name : String) (e : Entry) (f : Folder) (well : f.WellFormed)
    (named : IsName name) (inner : e.WellFormed) : (f.set name e).WellFormed := by
  refine ⟨Folder.nodup_set name e f well.1, fun p present => ?_,
    (wellFormedEntries_iff _).mpr fun p present => ?_⟩
  · rcases Folder.mem_set name e f p present with rfl | old
    · exact named
    · exact well.2.1 p old
  · rcases Folder.mem_set name e f p present with rfl | old
    · exact inner
    · exact (wellFormedEntries_iff f).mp well.2.2 p old

/-- What a path leads to in a well-formed tree is well formed. -/
theorem follow_wellFormed (path : String) (above : List Folder) (e x : Entry) (parts : List String)
    (outer : ∀ f ∈ above, Folder.WellFormed f) (well : e.WellFormed)
    (found : follow path above e parts = .ok x) : x.WellFormed := by
  induction parts generalizing above e with
  | nil =>
    rw [follow_nil] at found
    cases found
    exact well
  | cons part rest ih =>
    cases e with
    | file content => cases found
    | folder f =>
      by_cases skipped : (part == "" || part == ".") = true
      · rw [follow_skip path part above f rest skipped] at found
        exact ih above _ outer well found
      by_cases up : (part == "..") = true
      · rw [beq_iff_eq] at up
        subst up
        cases above with
        | nil => exact ih [] (.folder []) outer ⟨by simp, by simp, trivial⟩ found
        | cons g above =>
          exact ih above _ (fun h mem => outer h (List.mem_cons_of_mem _ mem))
            (outer g List.mem_cons_self) found
      rw [Bool.not_eq_true] at skipped up
      obtain ⟨-, y, entry, below⟩ := follow_name_ok path part above f rest x skipped up found
      refine ih (f :: above) y ?_ (Folder.wellFormed_find? f part y well entry).2 below
      exact List.forall_mem_cons.mpr ⟨well, outer⟩

theorem listFolder_wellFormed (root : Folder) (base : String) (well : root.WellFormed) :
    (listFolder root base).WellFormed := by
  rw [listFolder]
  split
  · rename_i f found
    rw [resolve_relative root base (isRelative_of_resolve root base _ found)] at found
    exact follow_wellFormed base [] (.folder root) (.folder f) _ (by simp) well found
  · exact ⟨by simp, by simp, trivial⟩

theorem Entry.wellFormed_at? (place : List String) (e x : Entry) (well : e.WellFormed)
    (found : Entry.at? place e = some x) : ∀ n ∈ place, IsName n := by
  induction place generalizing e with
  | nil => simp
  | cons name rest ih =>
    cases e with
    | file content => cases found
    | folder f =>
      rw [Entry.at?] at found
      obtain ⟨y, entry, below⟩ := Option.bind_eq_some_iff.mp found
      obtain ⟨named, inner⟩ := Folder.wellFormed_find? f name y well entry
      exact List.forall_mem_cons.mpr ⟨named, ih y inner below⟩

/-! ### What is found -/

theorem mem_ownMatches (test : String → Bool) (path qs : List String) (x : Entry) (f : Folder) :
    (qs, x) ∈ ownMatches test path f ↔
      ∃ name, qs = path ++ [name] ∧ test name = true ∧ (name, x) ∈ f := by
  simp only [ownMatches, List.mem_map, List.mem_filter, Prod.mk.injEq, Prod.exists]
  constructor
  · rintro ⟨name, e, ⟨member, passes⟩, rfl, rfl⟩
    exact ⟨name, rfl, passes, member⟩
  · rintro ⟨name, rfl, passes, member⟩
    exact ⟨name, x, ⟨member, passes⟩, rfl, rfl⟩

mutual

/-- What is found passes the test by its last name. -/
theorem matchesBelow_last (test : String → Bool) (path qs : List String) (x : Entry) :
    (e : Entry) → (qs, x) ∈ e.matchesBelow test path → ∃ front name, qs = front ++ [name] ∧
      test name = true
  | .file _, found => by
    rw [Entry.matchesBelow] at found
    cases found
  | .folder es, found => by
    rw [Entry.matchesBelow, List.mem_append] at found
    rcases found with own | inner
    · obtain ⟨name, rfl, passes, -⟩ := (mem_ownMatches test path qs x es).mp own
      exact ⟨path, name, rfl, passes⟩
    · exact innerMatches_last test path qs x es inner

/-- So does what is found further inside. -/
theorem innerMatches_last (test : String → Bool) (path qs : List String) (x : Entry) :
    (es : List (String × Entry)) → (qs, x) ∈ innerMatches test path es →
      ∃ front name, qs = front ++ [name] ∧ test name = true
  | [], found => by
    rw [innerMatches] at found
    cases found
  | (name, e) :: rest, found => by
    rw [innerMatches, List.mem_append] at found
    rcases found with first | later
    · exact matchesBelow_last test (path ++ [name]) qs x e first
    · exact innerMatches_last test path qs x rest later

end

mutual

/-- What is found below an entry lies there. -/
theorem mem_matchesBelow (test : String → Bool) (path qs : List String) (x : Entry) :
    (e : Entry) → e.WellFormed → ((qs, x) ∈ e.matchesBelow test path ↔
      ∃ front name, qs = path ++ (front ++ [name]) ∧ test name = true ∧
        Entry.at? (front ++ [name]) e = some x)
  | .file _, _ => by
    rw [Entry.matchesBelow]
    constructor
    · intro found
      cases found
    · rintro ⟨front, name, -, -, lies⟩
      cases front <;> cases lies
  | .folder es, well => by
    rw [Entry.matchesBelow, List.mem_append, mem_ownMatches,
      mem_innerMatches test path qs x es well.2.2]
    constructor
    · rintro (⟨name, rfl, passes, member⟩ | ⟨first, e, front, name, member, rfl, passes, lies⟩)
      · refine ⟨[], name, rfl, passes, ?_⟩
        rw [List.nil_append, Entry.at?,
          Folder.find?_of_mem name x es well.1 member]
        rfl
      · refine ⟨first :: front, name, rfl, passes, ?_⟩
        rw [List.cons_append, Entry.at?,
          Folder.find?_of_mem first e es well.1 member]
        exact lies
    · rintro ⟨front, name, rfl, passes, lies⟩
      cases front with
      | nil =>
        rw [List.nil_append, Entry.at?] at lies
        obtain ⟨y, entry, same⟩ := Option.bind_eq_some_iff.mp lies
        cases same
        exact .inl ⟨name, rfl, passes, Folder.mem_of_find? name x es entry⟩
      | cons first front =>
        rw [List.cons_append, Entry.at?] at lies
        obtain ⟨y, entry, below⟩ := Option.bind_eq_some_iff.mp lies
        exact .inr ⟨first, y, front, name, Folder.mem_of_find? first y es entry, rfl, passes, below⟩

/-- What is found inside the folders of a folder lies in one of them. -/
theorem mem_innerMatches (test : String → Bool) (path qs : List String) (x : Entry) :
    (es : List (String × Entry)) → WellFormedEntries es → ((qs, x) ∈ innerMatches test path es ↔
      ∃ first e front name, (first, e) ∈ es ∧ qs = path ++ (first :: (front ++ [name])) ∧
        test name = true ∧ Entry.at? (front ++ [name]) e = some x)
  | [], _ => by simp [innerMatches]
  | (first, e) :: rest, well => by
    rw [innerMatches, List.mem_append, mem_matchesBelow test (path ++ [first]) qs x e well.1,
      mem_innerMatches test path qs x rest well.2]
    constructor
    · rintro (⟨front, name, rfl, passes, lies⟩ | ⟨other, y, front, name, member, rfl, passes, lies⟩)
      · exact ⟨first, e, front, name, List.mem_cons_self, by simp, passes, lies⟩
      · exact ⟨other, y, front, name, List.mem_cons_of_mem _ member, rfl, passes, lies⟩
    · rintro ⟨other, y, front, name, member, rfl, passes, lies⟩
      rcases List.mem_cons.mp member with same | later
      · cases same
        exact .inl ⟨front, name, by simp, passes, lies⟩
      · exact .inr ⟨other, y, front, name, later, rfl, passes, lies⟩

end

/-- A walk finds what passes its test. -/
theorem Folder.mem_walk (test : String → Bool) (f : Folder) (well : f.WellFormed)
    (ps : List String) (x : Entry) :
    (ps, x) ∈ f.walk test ↔
      ∃ front name, ps = front ++ [name] ∧ test name = true ∧ Entry.at? ps (.folder f) = some x := by
  rw [Folder.walk, mem_matchesBelow test [] ps x (.folder f) well]
  constructor
  · rintro ⟨front, name, rfl, passes, lies⟩
    exact ⟨front, name, rfl, passes, lies⟩
  · rintro ⟨front, name, rfl, passes, lies⟩
    exact ⟨front, name, rfl, passes, lies⟩

/-! ### The order of a walk -/

/-- A folder lists a name before another one. -/
def Folder.ListsBefore (f : Folder) (a b : String) : Prop :=
  [a, b].Sublist (f.map Prod.fst)

/-- A place that a walk comes to before another: in the folder in which they part, an entry of that
folder comes before what lies further inside, and otherwise the listing of the folder decides. -/
def WalkedBefore : Folder → List String → List String → Prop
  | f, [a], [b] => f.ListsBefore a b
  | _, [_], _ :: _ :: _ => True
  | f, a :: b :: ps, c :: d :: qs =>
    f.ListsBefore a c ∨ a = c ∧ WalkedBefore (f.sub a) (b :: ps) (d :: qs)
  | _, _, _ => False

theorem WalkedBefore.cons {f : Folder} {ps qs : List String} {name : String}
    (before : WalkedBefore (f.sub name) ps qs) : WalkedBefore f (name :: ps) (name :: qs) := by
  cases ps with
  | nil => cases qs <;> cases before
  | cons a ps =>
    cases qs with
    | nil => cases ps <;> cases before
    | cons c qs => exact .inr ⟨rfl, before⟩

theorem walkedBefore_of_listed {f : Folder} {a c : String} (listed : f.ListsBefore a c)
    (ps qs : List String) (p q : String) :
    WalkedBefore f (a :: (ps ++ [p])) (c :: (qs ++ [q])) := by
  obtain ⟨b, ps', first⟩ := List.exists_cons_of_ne_nil (List.concat_ne_nil p ps)
  obtain ⟨d, qs', second⟩ := List.exists_cons_of_ne_nil (List.concat_ne_nil q qs)
  rw [first, second]
  exact .inl listed

theorem Folder.wellFormed_sub (f : Folder) (name : String) (well : f.WellFormed) :
    (f.sub name).WellFormed := by
  rw [Folder.sub]
  split
  · rename_i g found
    exact (Folder.wellFormed_find? f name _ well found).2
  · exact ⟨by simp, by simp, trivial⟩

theorem Folder.ListsBefore.ne {f : Folder} {a b : String} (before : f.ListsBefore a b)
    (well : f.WellFormed) : a ≠ b := by
  rintro rfl
  exact List.nodup_iff_sublist.mp well.1 a before

theorem WalkedBefore.ne {f : Folder} {ps qs : List String} (before : WalkedBefore f ps qs)
    (well : f.WellFormed) : ps ≠ qs := by
  rintro rfl
  induction ps generalizing f with
  | nil => exact before
  | cons a ps ih =>
    cases ps with
    | nil => exact Folder.ListsBefore.ne before well rfl
    | cons b ps =>
      rcases before with listed | ⟨-, later⟩
      · exact listed.ne well rfl
      · exact ih (f.wellFormed_sub a well) later

/-- Two findings at places below a path, of which a walk of the folder there comes to one before the
other. -/
def WalkedBelow (path : List String) (f : Folder) (p q : List String × Entry) : Prop :=
  ∃ ps qs, p.1 = path ++ ps ∧ q.1 = path ++ qs ∧ WalkedBefore f ps qs

/-- What an entry lists; a file lists nothing. -/
def Entry.listing : Entry → Folder
  | .file _ => []
  | .folder es => es

theorem Folder.sub_eq_listing (f : Folder) (name : String) (e : Entry)
    (found : f.find? name = some e) : f.sub name = e.listing := by
  rw [Folder.sub, found]
  cases e <;> rfl

theorem WalkedBelow.outer {path : List String} {f : Folder} {name : String} {e : Entry}
    {p q : List String × Entry} (below : WalkedBelow (path ++ [name]) e.listing p q)
    (found : f.find? name = some e) : WalkedBelow path f p q := by
  obtain ⟨ps, qs, first, second, before⟩ := below
  rw [← f.sub_eq_listing name e found] at before
  exact ⟨name :: ps, name :: qs, by rw [first, List.append_assoc]; rfl,
    by rw [second, List.append_assoc]; rfl, before.cons⟩

theorem ordered_ownMatches (test : String → Bool) (path : List String) (f : Folder) :
    (ownMatches test path f).Pairwise (WalkedBelow path f) := by
  have listed : (f.map Prod.fst).Pairwise f.ListsBefore :=
    List.pairwise_iff_forall_sublist.mpr fun before => before
  rw [ownMatches, List.pairwise_map]
  exact ((List.pairwise_map.mp listed).filter _).imp fun {p q} before =>
    ⟨[p.1], [q.1], rfl, rfl, before⟩

mutual

/-- The order of what is found below an entry. -/
theorem ordered_matchesBelow (test : String → Bool) (path : List String) :
    (e : Entry) → e.WellFormed → (e.matchesBelow test path).Pairwise (WalkedBelow path e.listing)
  | .file _, _ => by
    rw [Entry.matchesBelow]
    exact List.Pairwise.nil
  | .folder es, well => by
    rw [Entry.matchesBelow, List.pairwise_append]
    refine ⟨ordered_ownMatches test path es,
      ordered_innerMatches test path es well.1 es (List.suffix_refl es) well.2.2, ?_⟩
    rintro ⟨ps, x⟩ own ⟨qs, y⟩ inner
    obtain ⟨name, rfl, -, -⟩ := (mem_ownMatches test path ps x es).mp own
    obtain ⟨first, e, front, last, -, rfl, -, -⟩ :=
      (mem_innerMatches test path qs y es well.2.2).mp inner
    refine ⟨[name], first :: (front ++ [last]), rfl, rfl, ?_⟩
    cases front <;> trivial

/-- The order of what is found inside the last folders that a folder lists. -/
theorem ordered_innerMatches (test : String → Bool) (path : List String) (f : Folder)
    (distinct : (f.map Prod.fst).Nodup) :
    (es : List (String × Entry)) → es <:+ f → WellFormedEntries es →
      (innerMatches test path es).Pairwise (WalkedBelow path f)
  | [], _, _ => by
    rw [innerMatches]
    exact List.Pairwise.nil
  | (name, e) :: rest, last, well => by
    have found := Folder.find?_of_mem name e f distinct (last.subset List.mem_cons_self)
    rw [innerMatches, List.pairwise_append]
    refine ⟨(ordered_matchesBelow test (path ++ [name]) e well.1).imp fun below => below.outer found,
      ordered_innerMatches test path f distinct rest ((List.suffix_cons _ _).trans last) well.2, ?_⟩
    rintro ⟨ps, x⟩ here ⟨qs, y⟩ later
    obtain ⟨front, end_, rfl, -, -⟩ := (mem_matchesBelow test _ ps x e well.1).mp here
    obtain ⟨other, z, front', end', member, rfl, -, -⟩ :=
      (mem_innerMatches test path qs y rest well.2).mp later
    have listed : f.ListsBefore name other := by
      have behind : [other].Sublist (rest.map Prod.fst) :=
        List.singleton_sublist.mpr (List.mem_map.mpr ⟨_, member, rfl⟩)
      exact (behind.cons_cons name).trans (last.sublist.map Prod.fst)
    exact ⟨name :: (front ++ [end_]), other :: (front' ++ [end']), by simp, rfl,
      walkedBefore_of_listed listed front front' end_ end'⟩

end

theorem Folder.ordered_walk (test : String → Bool) (f : Folder) (well : f.WellFormed) :
    (f.walk test).Pairwise fun p q => WalkedBefore f p.1 q.1 := by
  refine (ordered_matchesBelow test [] (.folder f) well).imp ?_
  rintro ⟨_, x⟩ ⟨_, y⟩ ⟨ps, qs, rfl, rfl, before⟩
  exact before

/-- No place is found twice. -/
theorem Folder.nodup_walk (test : String → Bool) (f : Folder) (well : f.WellFormed) :
    ((f.walk test).map Prod.fst).Nodup :=
  List.pairwise_map.mpr ((f.ordered_walk test well).imp fun before => before.ne well)

/-! ### Written places -/

/-- Names behind slashes are cut where they were joined. -/
theorem Text.splitOn_intercalate (parts : List String) (some_ : parts ≠ [])
    (named : ∀ n ∈ parts, IsName n) : Text.splitOn '/' ("/".intercalate parts) = parts := by
  induction parts with
  | nil => exact absurd rfl some_
  | cons name rest ih =>
    have head := (named name List.mem_cons_self).splitOn
    cases rest with
    | nil => rw [String.intercalate_singleton, head]
    | cons next more =>
      rw [String.intercalate_cons_cons, Text.splitOn_append, head,
        ih (by simp) fun n mem => named n (List.mem_cons_of_mem _ mem)]
      rfl

/-- The place of an entry that is found can be read off its path. -/
theorem Folder.splitOn_of_mem_walk (test : String → Bool) (f : Folder) (well : f.WellFormed)
    (place : List String) (e : Entry) (found : (place, e) ∈ f.walk test) :
    Text.splitOn '/' ("/".intercalate place) = place := by
  obtain ⟨front, name, rfl, -, lies⟩ := (Folder.mem_walk test f well _ _).mp found
  exact Text.splitOn_intercalate _ (by simp) (Entry.wellFormed_at? _ _ _ well lies)

theorem Text.intercalate_splitAtChar (sep : Char) (cs : List Char) :
    [sep].intercalate (Text.splitAtChar sep cs) = cs := by
  induction cs with
  | nil => rfl
  | cons c cs ih =>
    obtain ⟨piece, pieces, cut⟩ := List.exists_cons_of_ne_nil (Text.splitAtChar_ne_nil sep cs)
    rw [cut] at ih
    rw [Text.splitAtChar, cut]
    split
    · rename_i same
      rw [List.intercalate_cons_cons, ih, beq_iff_eq.mp same]
      rfl
    · cases pieces <;> simpa using ih

theorem Text.intercalate_splitOn (path : String) :
    "/".intercalate (Text.splitOn '/' path) = path := by
  rw [← String.toList_inj, String.toList_intercalate, Text.splitOn, List.map_map]
  have same : String.toList ∘ String.ofList = id := funext fun cs => String.toList_ofList
  rw [same, List.map_id]
  exact Text.intercalate_splitAtChar '/' path.toList

end VoiceDebugger
