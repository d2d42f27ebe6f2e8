import RpcBindings.Path.Location
import RpcBindings.Proofs.Text.Pieces

namespace RpcBindings.Path

def parts (path : String) : List String := (Location.ofText path).parts

/-- A component that leads somewhere. -/
structure IsPart (c : String) : Prop where
  ne_empty : c ≠ ""
  ne_dot : c ≠ "."
  no_slash : '/' ∉ c.toList

instance (c : String) : Decidable (IsPart c) :=
  decidable_of_iff (c ≠ "" ∧ c ≠ "." ∧ '/' ∉ c.toList)
    ⟨fun h => ⟨h.1, h.2.1, h.2.2⟩, fun h => ⟨h.ne_empty, h.ne_dot, h.no_slash⟩⟩

variable {a b p c : String} {cwd dir ps : List String}

theorem mem_parts : c ∈ parts p ↔ c ∈ Text.splitOn '/' p ∧ c ≠ "" ∧ c ≠ "." := by
  rw [parts, Location.ofText, List.mem_filter, decide_eq_true_iff]

theorem isPart_of_mem (h : c ∈ parts p) : IsPart c := by
  obtain ⟨hmem, hne, hdot⟩ := mem_parts.1 h
  obtain ⟨piece, hpiece, rfl⟩ := List.mem_map.1 hmem
  refine ⟨hne, hdot, ?_⟩
  rw [String.toList_ofList]
  exact Text.sep_not_mem_of_mem_splitOn hpiece

theorem parts_slash (a b : String) : parts (a ++ "/" ++ b) = parts a ++ parts b := by
  have hsplit : Text.splitOn '/' (a ++ "/" ++ b) = Text.splitOn '/' a ++ Text.splitOn '/' b := by
    rw [Text.splitOn, String.toList_append, String.toList_append, List.append_assoc]
    exact (congrArg _ (Text.splitOn_append_sep '/' a.toList b.toList)).trans List.map_append
  rw [parts, parts, parts, Location.ofText, hsplit, List.filter_append]
  rfl

theorem splitOn_intercalate (h : ∀ c ∈ ps, '/' ∉ c.toList) (hne : ps ≠ []) :
    Text.splitOn '/' ("/".intercalate ps) = ps := Text.splitOn_intercalate h hne

theorem intercalate_splitOn (p : String) : "/".intercalate (Text.splitOn '/' p) = p :=
  Text.intercalate_splitOn '/' p

theorem intercalate_concat (hne : ps ≠ []) (c : String) :
    "/".intercalate (ps ++ [c]) = "/".intercalate ps ++ "/" ++ c := by
  rw [String.intercalate_append_of_ne_nil hne (List.cons_ne_nil c []), String.intercalate_singleton]

theorem parts_intercalate (h : ∀ c ∈ ps, IsPart c) : parts ("/".intercalate ps) = ps := by
  by_cases hne : ps = []
  · rw [hne]
    rfl
  · rw [parts, Location.ofText, splitOn_intercalate (fun c hc => (h c hc).no_slash) hne]
    refine List.filter_eq_self.2 fun c hc => decide_eq_true ?_
    exact ⟨(h c hc).ne_empty, (h c hc).ne_dot⟩

theorem isAbsolute_eq_head? : isAbsolute p = (p.toList.head? == some '/') := by
  rw [isAbsolute, Text.startsWith, show "/".toList = ['/'] from rfl]
  cases p.toList with
  | nil => rfl
  | cons c rest =>
    rw [List.isPrefixOf_cons_cons, List.isPrefixOf_nil_left, Bool.and_true, List.head?_cons]
    exact BEq.comm

theorem isAbsolute_of_not_mem (h : '/' ∉ p.toList) : isAbsolute p = false := by
  rw [isAbsolute_eq_head?]
  cases hlist : p.toList with
  | nil => rfl
  | cons c rest =>
    have hc : c ≠ '/' := by
      rintro rfl
      exact h (hlist ▸ List.mem_cons_self)
    simpa using hc

theorem isAbsolute_intercalate (h : ∀ c ∈ ps, IsPart c) :
    isAbsolute ("/".intercalate ps) = false := by
  rw [isAbsolute_eq_head?, String.toList_intercalate]
  cases ps with
  | nil => rfl
  | cons c cs =>
    have hc := h c List.mem_cons_self
    obtain ⟨d, rest, hd⟩ := List.exists_cons_of_ne_nil (mt String.toList_eq_nil_iff.1 hc.ne_empty)
    have hslash : d ≠ '/' := by
      rintro rfl
      exact hc.no_slash (hd ▸ List.mem_cons_self)
    cases cs with
    | nil => simpa [hd] using hslash
    | cons e cs => simpa [hd] using hslash

theorem takeWhile_slash_eq_nil_iff : p.toList.takeWhile (· = '/') = [] ↔ isAbsolute p = false := by
  rw [← List.head?_eq_none_iff, List.head?_takeWhile, isAbsolute_eq_head?]
  cases p.toList.head? with
  | none => simp
  | some c => simp [Option.filter]

theorem rootOf_eq_empty_iff : Location.rootOf p = "" ↔ isAbsolute p = false := by
  rw [← takeWhile_slash_eq_nil_iff, Location.rootOf]
  split <;> simp_all

theorem rootOf_append (hb : isAbsolute b = false) : Location.rootOf (a ++ b) = Location.rootOf a := by
  have htake : (a ++ b).toList.takeWhile (· = '/') = a.toList.takeWhile (· = '/') := by
    rw [String.toList_append, List.takeWhile_append, takeWhile_slash_eq_nil_iff.2 hb, List.append_nil]
    split
    · rename_i hlen
      rw [(List.takeWhile_prefix _).eq_of_length hlen]
    · rfl
  rw [Location.rootOf, Location.rootOf, htake]

/-- What follows another character does not change the slashes at the start. -/
theorem rootOf_append_of_mem {d : Char} (hd : d ∈ a.toList) (hne : d ≠ '/') (b : String) :
    Location.rootOf (a ++ b) = Location.rootOf a := by
  rw [Location.rootOf, Location.rootOf, String.toList_append, List.takeWhile_append, if_neg]
  intro hlen
  have hall := List.takeWhile_eq_self_iff.1 ((List.takeWhile_prefix _).eq_of_length hlen)
  exact hne (of_decide_eq_true (hall d hd))

theorem exists_append_slash (h : Text.endsWith p "/" = true) : ∃ front, p = front ++ "/" := by
  obtain ⟨front, hfront⟩ := List.isSuffixOf_iff_suffix.1 h
  refine ⟨String.ofList front, ?_⟩
  rw [← String.toList_inj, String.toList_append, String.toList_ofList, hfront]

theorem exists_mem_ne_slash (hne : p ≠ "") (h : Text.endsWith p "/" = false) :
    ∃ d ∈ p.toList, d ≠ '/' := by
  have hlist : p.toList ≠ [] := mt String.toList_eq_nil_iff.1 hne
  refine ⟨_, List.getLast_mem hlist, fun hlast => ?_⟩
  have hend : Text.endsWith p "/" = true := by
    rw [Text.endsWith, List.isSuffixOf_iff_suffix, ← List.dropLast_concat_getLast hlist, hlast]
    exact List.suffix_append ..
  rw [h] at hend
  cases hend

/-- A slash at the end of a path adds no part. -/
theorem parts_append_of_slash (a b : String) : parts (a ++ "/" ++ b) = parts (a ++ "/") ++ parts b := by
  have hend : parts (a ++ "/" ++ "") = parts a ++ parts "" := parts_slash a ""
  rw [String.append_empty] at hend
  rw [parts_slash, hend, show parts "" = [] from rfl, List.append_nil]

theorem join_of_relative (l : Location) (hb : isAbsolute b = false) :
    l.join b = ⟨l.root, l.parts ++ parts b⟩ := if_pos (rootOf_eq_empty_iff.2 hb)

theorem join_empty (l : Location) : l.join "" = l := by
  rw [join_of_relative l rfl, show parts "" = [] from rfl, List.append_nil]

theorem join_of_absolute (l : Location) (hb : isAbsolute b = true) : l.join b = Location.ofText b := by
  refine if_neg fun heq => ?_
  rw [rootOf_eq_empty_iff.1 heq] at hb
  cases hb

theorem empty_join (p : String) : Location.join ⟨"", []⟩ p = Location.ofText p := by
  cases hp : isAbsolute p with
  | true => exact join_of_absolute _ hp
  | false =>
    rw [join_of_relative _ hp, Location.ofText, rootOf_eq_empty_iff.2 hp]
    rfl

theorem ofText_append (a b : String) :
    Location.ofText (append a b) = (Location.ofText a).join b := by
  rw [append]
  cases hb : isAbsolute b with
  | true => exact (join_of_absolute _ hb).symm
  | false =>
    rw [if_neg Bool.false_ne_true, join_of_relative _ hb]
    change Location.mk (Location.rootOf _) (parts _) = ⟨Location.rootOf a, parts a ++ parts b⟩
    by_cases ha : a = ""
    · rw [if_pos (.inl ha), ha, rootOf_append hb, String.empty_append]
      rfl
    · cases hend : Text.endsWith a "/" with
      | true =>
        obtain ⟨front, rfl⟩ := exists_append_slash hend
        rw [if_pos (.inr rfl), rootOf_append hb, parts_append_of_slash]
      | false =>
        obtain ⟨d, hd, hslash⟩ := exists_mem_ne_slash ha hend
        rw [if_neg (by simp [ha]), parts_slash, String.append_assoc, rootOf_append_of_mem hd hslash]

/-- Empty parts count for nothing where parts are joined. -/
theorem ofText_of_join? {path : String} (h : join? ps = some path) :
    Location.ofText path = ps.foldl Location.join ⟨"", []⟩ := by
  have hfold (l : Location) (qs : List String) :
      qs.foldl Location.join l = (qs.filter (· ≠ "")).foldl Location.join l := by
    induction qs generalizing l with
    | nil => rfl
    | cons q qs ih =>
      by_cases hq : q = ""
      · rw [List.foldl_cons, List.filter_cons_of_neg (by simp [hq]), ← ih, hq, join_empty]
      · rw [List.foldl_cons, List.filter_cons_of_pos (by simp [hq]), List.foldl_cons, ih]
  have happend (qs : List String) (a : String) :
      Location.ofText (qs.foldl append a) = qs.foldl Location.join (Location.ofText a) := by
    induction qs generalizing a with
    | nil => rfl
    | cons q qs ih => rw [List.foldl_cons, List.foldl_cons, ih, ofText_append]
  rw [hfold]
  rw [join?] at h
  cases hps : ps.filter (· ≠ "") with
  | nil =>
    rw [hps] at h
    cases h
  | cons first rest =>
    rw [hps] at h
    cases h
    rw [happend, List.foldl_cons, empty_join]

theorem folder_append_baseName (p : String) : folder p ++ baseName p = p := by
  rw [← String.toList_inj, folder, baseName, String.toList_append, String.toList_ofList,
    String.toList_ofList, ← List.reverse_append, List.takeWhile_append_dropWhile, List.reverse_reverse]

theorem folder_cases (p : String) : folder p = "" ∨ ∃ d, folder p = d ++ "/" := by
  have hhead := List.head?_dropWhile_not (fun c => decide (c ≠ '/')) p.toList.reverse
  rw [folder]
  cases hdrop : p.toList.reverse.dropWhile (· ≠ '/') with
  | nil => exact .inl rfl
  | cons c rest =>
    rw [hdrop] at hhead
    have hc : c = '/' := by simpa using hhead
    refine .inr ⟨String.ofList rest.reverse, ?_⟩
    rw [hc, List.reverse_cons, String.ofList_append]

def directories (file : String) : List String := parts (folder file)

theorem parts_folder_append (p b : String) : parts (folder p ++ b) = directories p ++ parts b := by
  rw [directories]
  rcases folder_cases p with h | ⟨d, h⟩
  · rw [h, String.empty_append, show parts "" = [] from rfl, List.nil_append]
  · rw [h, parts_append_of_slash]

def Normal (ps : List String) : Prop := ∀ c ∈ ps, c ≠ "" ∧ c ≠ "." ∧ c ≠ ".."

instance (ps : List String) : Decidable (Normal ps) := inferInstanceAs (Decidable (∀ c ∈ ps, _))

theorem normal_enterOne (h : Normal dir) (c : String) : Normal (enterOne dir c) := by
  rw [enterOne]
  split
  · exact h
  · rename_i hc
    split
    · intro d hd
      exact h d (List.dropLast_subset dir hd)
    · rename_i hup
      obtain ⟨hne, hdot⟩ := not_or.1 hc
      intro d hd
      rcases List.mem_append.1 hd with hd | hd
      · exact h d hd
      · cases List.mem_singleton.1 hd
        exact ⟨hne, hdot, hup⟩

theorem normal_enter (h : Normal dir) (cs : List String) : Normal (enter dir cs) := by
  induction cs generalizing dir with
  | nil => exact h
  | cons c cs ih => exact ih (normal_enterOne h c)

theorem mem_of_mem_enter {cs : List String} (h : c ∈ enter dir cs) : c ∈ dir ∨ c ∈ cs := by
  induction cs generalizing dir with
  | nil => exact .inl h
  | cons first cs ih =>
    rcases ih h with hc | hc
    · rw [enterOne] at hc
      split at hc
      · exact .inl hc
      · split at hc
        · exact .inl (List.dropLast_subset dir hc)
        · rcases List.mem_append.1 hc with hc | hc
          · exact .inl hc
          · exact .inr (List.mem_singleton.1 hc ▸ List.mem_cons_self)
    · exact .inr (List.mem_cons_of_mem first hc)

theorem enter_of_normal {cs : List String} (h : Normal cs) (dir : List String) : enter dir cs = dir ++ cs := by
  induction cs generalizing dir with
  | nil => exact (List.append_nil dir).symm
  | cons c cs ih =>
    obtain ⟨⟨hne, hdot, hup⟩, hcs⟩ := List.forall_mem_cons.1 h
    have hone : enterOne dir c = dir ++ [c] := by
      rw [enterOne, if_neg (by simp [hne, hdot]), if_neg hup]
    change enter (enterOne dir c) cs = _
    rw [hone, ih hcs, List.append_assoc]
    rfl

/-- A name that a file can have. -/
structure IsFileName (name : String) : Prop extends IsPart name where
  not_up : name ≠ ".."
  no_null : '\x00' ∉ name.toList

instance (name : String) : Decidable (IsFileName name) :=
  decidable_of_iff (IsPart name ∧ name ≠ ".." ∧ '\x00' ∉ name.toList)
    ⟨fun h => ⟨h.1, h.2.1, h.2.2⟩, fun h => ⟨h.toIsPart, h.not_up, h.no_null⟩⟩

variable {name : String}

theorem normal_concat (h : Normal dir) (hne : name ≠ "") (hdot : name ≠ ".") (hup : name ≠ "..") :
    Normal (dir ++ [name]) := by
  intro c hc
  rcases List.mem_append.1 hc with hc | hc
  · exact h c hc
  · cases List.mem_singleton.1 hc
    exact ⟨hne, hdot, hup⟩

theorem IsFileName.normal (hname : IsFileName name) (h : Normal dir) : Normal (dir ++ [name]) :=
  normal_concat h hname.ne_empty hname.ne_dot hname.not_up

theorem hasNull_eq_false_iff {l : Location} : l.hasNull = false ↔ ∀ c ∈ l.parts, '\x00' ∉ c.toList := by
  simp [Location.hasNull]

theorem hasNull_concat (h : (Location.atPath dir).hasNull = false) (hname : '\x00' ∉ name.toList) :
    (Location.atPath (dir ++ [name])).hasNull = false := by
  rw [Location.hasNull, Location.atPath, List.any_append, Bool.or_eq_false_iff]
  refine ⟨h, ?_⟩
  simpa using hname

theorem not_mem_of_hasNull_concat (h : (Location.atPath (dir ++ [name])).hasNull = false) :
    '\x00' ∉ name.toList := by
  rw [Location.hasNull, Location.atPath, List.any_append, Bool.or_eq_false_iff] at h
  simpa using h.2

theorem components_atPath (cwd dir : List String) : (Location.atPath dir).components cwd = dir := by
  have hroot : ¬"/" = "" := by decide
  exact if_neg hroot

theorem parent_atPath (dir : List String) (name : String) :
    (Location.atPath (dir ++ [name])).parent = .atPath dir := by
  rw [Location.parent, Location.atPath, List.dropLast_concat, Location.atPath]

theorem name_atPath (dir : List String) (name : String) : (Location.atPath (dir ++ [name])).name = name := by
  rw [Location.name, Location.atPath, List.getLast?_concat, Option.getD_some]

theorem text_atPath (dir : List String) : (Location.atPath dir).text = "/" ++ "/".intercalate dir := by
  have hroot : ¬"/" = "" := by decide
  rw [Location.text, Location.atPath, if_neg (not_and_of_not_left _ hroot)]

theorem exists_text_concat (dir : List String) :
    ∃ front, ∀ name, (Location.atPath (dir ++ [name])).text = front ++ name := by
  by_cases hdir : dir = []
  · refine ⟨"/", fun name => ?_⟩
    rw [text_atPath, hdir, List.nil_append, String.intercalate_singleton]
  · refine ⟨"/" ++ "/".intercalate dir ++ "/", fun name => ?_⟩
    rw [text_atPath, intercalate_concat hdir]
    simp only [String.append_assoc]

theorem size_text_concat (dir : List String) {other : String} (h : name.utf8ByteSize ≤ other.utf8ByteSize) :
    (Location.atPath (dir ++ [name])).text.utf8ByteSize ≤ (Location.atPath (dir ++ [other])).text.utf8ByteSize := by
  obtain ⟨front, hfront⟩ := exists_text_concat dir
  rw [hfront, hfront, String.utf8ByteSize_append, String.utf8ByteSize_append]
  exact Nat.add_le_add_left h _

theorem size_text_front (dir : List String) (name : String) :
    (Location.atPath dir).text.utf8ByteSize ≤ (Location.atPath (dir ++ [name])).text.utf8ByteSize := by
  rw [text_atPath, text_atPath]
  by_cases hdir : dir = []
  · rw [hdir, String.intercalate_nil, String.append_empty, String.utf8ByteSize_append]
    exact Nat.le_add_right _ _
  · rw [intercalate_concat hdir]
    simp only [String.utf8ByteSize_append]
    omega

theorem absolute_atPath (h : Normal dir) (cwd : List String) :
    (Location.atPath dir).absolute cwd = .atPath dir := by
  rw [Location.absolute, components_atPath, enter_of_normal h, List.nil_append]

theorem join_fileName (hname : IsFileName name) (l : Location) : l.join name = l.child name := by
  have hrelative : isAbsolute name = false := isAbsolute_of_not_mem hname.no_slash
  have hparts : parts name = [name] := by
    have hone : ∀ c ∈ [name], IsPart c := List.forall_mem_singleton.2 hname.toIsPart
    simpa using parts_intercalate hone
  rw [join_of_relative l hrelative, hparts, Location.child]

/-- A relative path without `..`. -/
structure Descends (p : String) : Prop where
  relative : isAbsolute p = false
  not_up : ".." ∉ parts p

instance (p : String) : Decidable (Descends p) :=
  decidable_of_iff (isAbsolute p = false ∧ ".." ∉ parts p) ⟨fun h => ⟨h.1, h.2⟩, fun h => ⟨h.1, h.2⟩⟩

theorem isAbsolute_append_left (h : isAbsolute (a ++ b) = false) : isAbsolute a = false := by
  rw [isAbsolute_eq_head?, String.toList_append] at h
  rw [isAbsolute_eq_head?]
  cases ha : a.toList with
  | nil => rfl
  | cons c rest => simpa [ha] using h

theorem isAbsolute_append (ha : isAbsolute a = false) (hb : isAbsolute b = false) :
    isAbsolute (a ++ b) = false := by
  rw [isAbsolute_eq_head?] at *
  rw [String.toList_append]
  cases hlist : a.toList with
  | nil => exact hb
  | cons c rest => simpa [hlist] using ha

theorem Descends.folder (h : Descends p) : Descends (folder p) := by
  have hp := folder_append_baseName p
  refine ⟨isAbsolute_append_left (hp ▸ h.relative), fun hup => h.not_up ?_⟩
  rw [← hp, parts_folder_append]
  exact List.mem_append_left _ hup

theorem Descends.not_up_directories (h : Descends p) : ".." ∉ directories p := h.folder.not_up

theorem enter_splitOn (dir : List String) (p : String) : enter dir (Text.splitOn '/' p) = enter dir (parts p) := by
  rw [parts, Location.ofText]
  generalize Text.splitOn '/' p = cs
  induction cs generalizing dir with
  | nil => rfl
  | cons c cs ih =>
    by_cases hc : c = "" ∨ c = "."
    · rw [List.filter_cons_of_neg (by simpa [or_iff_not_imp_left] using hc), ← ih]
      exact congrArg (enter · cs) (if_pos hc)
    · rw [List.filter_cons_of_pos (by simpa [not_or] using hc)]
      exact ih _

theorem enter_of_not_mem (h : ∀ c ∈ ps, IsPart c) (hup : ".." ∉ ps) (dir : List String) :
    enter dir ps = dir ++ ps := by
  apply enter_of_normal
  intro c hc
  refine ⟨(h c hc).ne_empty, (h c hc).ne_dot, ?_⟩
  rintro rfl
  exact hup hc

theorem Descends.absolute_eq (h : Descends p) (cwd : List String) : absolute cwd p = cwd ++ parts p := by
  rw [absolute, h.relative, if_neg Bool.false_ne_true, enter_splitOn]
  exact enter_of_not_mem (fun c hc => isPart_of_mem hc) h.not_up cwd

theorem Descends.absolute_folder (h : Descends p) (cwd : List String) :
    absolute cwd (Path.folder p) = cwd ++ directories p := h.folder.absolute_eq cwd

end RpcBindings.Path
