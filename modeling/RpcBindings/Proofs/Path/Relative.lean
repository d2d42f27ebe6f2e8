import Mathlib.Data.List.Induction
import RpcBindings.Proofs.Path.Joined
import RpcBindings.Proofs.Path.Normal

namespace RpcBindings.Path

variable {a b c p : String} {cwd dir start target : List String}

def IsStart (cwd : List String) : Prop := ∀ c ∈ cwd, IsPart c ∧ c ≠ ".."

instance (cwd : List String) : Decidable (IsStart cwd) := inferInstanceAs (Decidable (∀ c ∈ cwd, _))

theorem IsStart.normal (h : IsStart cwd) : Normal cwd :=
  fun c hc => ⟨(h c hc).1.ne_empty, (h c hc).1.ne_dot, (h c hc).2⟩

/-- The directory of a file: the text up to the last slash, without the slashes that it ends in unless there is
nothing else. -/
def dirname (file : String) : String :=
  if (folder file).toList.all (· = '/') then folder file else Text.dropTrailing '/' (folder file)

theorem parts_slashes (k : Nat) : parts (String.ofList (List.replicate k '/')) = [] := by
  induction k with
  | zero => rfl
  | succ k ih =>
    have hslash := parts_slash "" (String.ofList (List.replicate k '/'))
    rw [ih] at hslash
    rw [List.replicate_succ, ← List.singleton_append, String.ofList_append]
    exact hslash

theorem exists_append_slashes (p : String) :
    ∃ k, p = Text.dropTrailing '/' p ++ String.ofList (List.replicate k '/') := by
  refine ⟨(p.toList.reverse.takeWhile (· = '/')).length, ?_⟩
  have hslashes : p.toList.reverse.takeWhile (· = '/') =
      List.replicate (p.toList.reverse.takeWhile (· = '/')).length '/' := by
    apply List.eq_replicate_of_mem
    intro c hc
    simpa using List.mem_takeWhile_imp hc
  rw [Text.dropTrailing, ← List.reverse_replicate, ← hslashes, ← String.ofList_append, ← List.reverse_append,
    List.takeWhile_append_dropWhile, List.reverse_reverse, String.ofList_toList]

theorem parts_append_slashes (p : String) (k : Nat) :
    parts (p ++ String.ofList (List.replicate k '/')) = parts p := by
  cases k with
  | zero => rw [List.replicate_zero, String.ofList_nil, String.append_empty]
  | succ k =>
    have hslash := parts_slash p (String.ofList (List.replicate k '/'))
    rw [parts_slashes, List.append_nil] at hslash
    rw [List.replicate_succ, ← List.singleton_append, String.ofList_append, ← String.append_assoc]
    exact hslash

theorem absolute_eq (cwd : List String) (p : String) :
    absolute cwd p = enter (if isAbsolute p then [] else cwd) (parts p) := enter_splitOn _ p

/-- The slashes that are taken off make no difference. -/
theorem absolute_dirname (cwd : List String) (file : String) :
    absolute cwd (dirname file) = absolute cwd (folder file) := by
  rw [dirname]
  split
  · rfl
  · rename_i hother
    obtain ⟨k, hk⟩ := exists_append_slashes (folder file)
    generalize Text.dropTrailing '/' (folder file) = front at hk
    have hne : front ≠ "" := by
      intro hempty
      apply hother
      rw [hk, hempty, String.empty_append, String.toList_ofList]
      simp
    have hroot : isAbsolute (folder file) = isAbsolute front := by
      rw [hk, isAbsolute_append_of_ne hne]
    rw [absolute_eq, absolute_eq, hroot, hk, parts_append_slashes]

theorem absolute_append (hb : isAbsolute b = false) (cwd : List String) (a : String) :
    absolute cwd (append a b) = enter (absolute cwd a) (parts b) := by
  have hjoined : Location.ofText (append a b) = ⟨Location.rootOf a, parts a ++ parts b⟩ :=
    (ofText_append a b).trans (join_of_relative _ hb)
  have hparts : parts (append a b) = parts a ++ parts b := congrArg Location.parts hjoined
  have hroot : Location.rootOf (append a b) = Location.rootOf a := congrArg Location.root hjoined
  have habsolute : isAbsolute (append a b) = isAbsolute a := by
    rw [Bool.eq_iff_iff, ← not_iff_not, Bool.not_eq_true, Bool.not_eq_true, ← rootOf_eq_empty_iff,
      ← rootOf_eq_empty_iff, hroot]
  rw [absolute_eq, absolute_eq, hparts, habsolute, enter, List.foldl_append]
  rfl

theorem enter_up (dir up : List String) : enter (dir ++ up) (List.replicate up.length "..") = dir := by
  induction up using List.reverseRecOn with
  | nil => exact List.append_nil dir
  | append_singleton up c ih =>
    have hone : enterOne (dir ++ (up ++ [c])) ".." = dir ++ up := by
      rw [enterOne, if_neg (by decide), if_pos rfl, ← List.append_assoc, List.dropLast_concat]
    rw [List.length_append, List.length_singleton, List.replicate_succ]
    change enter (enterOne _ _) _ = dir
    rw [hone, ih]

theorem enter_between (h : Normal target) (start : List String) : enter start (between start target) = target := by
  obtain ⟨shared, up, down, rfl, rfl, -, hway⟩ := between_eq start target
  have hdown : Normal down := fun c hc => h c (List.mem_append_right _ hc)
  rw [hway, enter, List.foldl_append]
  change enter (enter _ _) down = _
  rw [enter_up, enter_of_normal hdown]

theorem between_eq_nil_iff (h : Normal target) : between start target = [] ↔ start = target := by
  constructor
  · intro hnil
    have hway := enter_between h start
    rwa [hnil] at hway
  · rintro rfl
    have hsame := between_append_left start [] []
    rwa [List.append_nil] at hsame

theorem IsStart.isPart_of_mem_absolute (h : IsStart cwd) (hc : c ∈ absolute cwd p) : IsPart c := by
  rw [absolute_eq] at hc
  rcases mem_of_mem_enter hc with hc | hc
  · split at hc
    · cases hc
    · exact (h c hc).1
  · exact isPart_of_mem hc

theorem IsStart.normal_absolute (h : IsStart cwd) (p : String) : Normal (absolute cwd p) := by
  apply normal_enter
  split
  · exact List.forall_mem_nil _
  · exact h.normal

/-- The components of the way from the directory of one file to that of another. -/
def wayTo (cwd : List String) (fromFile toFile : String) : List String :=
  between (absolute cwd (folder fromFile)) (absolute cwd (folder toFile))

theorem IsStart.isPart_of_mem_wayTo (h : IsStart cwd) (fromFile toFile : String) :
    ∀ c ∈ wayTo cwd fromFile toFile, IsPart c :=
  isPart_of_mem_between fun _ hc => h.isPart_of_mem_absolute hc

theorem IsStart.enter_wayTo (h : IsStart cwd) (fromFile toFile : String) :
    enter (absolute cwd (folder fromFile)) (wayTo cwd fromFile toFile) = absolute cwd (folder toFile) :=
  enter_between (h.normal_absolute _) _

/-- A path that leads from the directory of one file to that of another: up, and then down by names only. -/
structure IsWay (cwd : List String) (fromFile toFile way : String) : Prop where
  arrives : absolute cwd (append (dirname fromFile) way) = absolute cwd (dirname toFile)
  empty_iff : way = "" ↔ absolute cwd (dirname fromFile) = absolute cwd (dirname toFile)
  relative : isAbsolute way = false
  components : way ≠ "" → ∃ k down, Text.splitOn '/' way = List.replicate k ".." ++ down ∧ Normal down

/-- Whatever components the two paths have, and whether they are absolute or not. -/
theorem relativeDir_isWay (hcwd : IsStart cwd) (fromFile toFile : String) :
    IsWay cwd fromFile toFile (relativeDir cwd fromFile toFile) := by
  have hnormal : Normal (absolute cwd (folder toFile)) := hcwd.normal_absolute _
  have hparts := hcwd.isPart_of_mem_wayTo fromFile toFile
  have hrel : relativeDir cwd fromFile toFile = "/".intercalate (wayTo cwd fromFile toFile) := rfl
  have hway : parts (relativeDir cwd fromFile toFile) = wayTo cwd fromFile toFile := parts_intercalate hparts
  have hempty : relativeDir cwd fromFile toFile = "" ↔ wayTo cwd fromFile toFile = [] := by
    constructor
    · intro h
      rw [← hway, h]
      rfl
    · intro h
      rw [hrel, h]
      rfl
  have hrelative : isAbsolute (relativeDir cwd fromFile toFile) = false := isAbsolute_intercalate hparts
  constructor
  · rw [absolute_append hrelative, absolute_dirname, absolute_dirname, hway, hcwd.enter_wayTo]
  · rw [hempty, wayTo, between_eq_nil_iff hnormal, absolute_dirname, absolute_dirname]
  · exact hrelative
  · intro hne
    obtain ⟨shared, up, down, -, htarget, -, hbetween⟩ :=
      between_eq (absolute cwd (folder fromFile)) (absolute cwd (folder toFile))
    refine ⟨up.length, down, ?_, fun c hc => hnormal c (htarget ▸ List.mem_append_right _ hc)⟩
    rw [hrel, splitOn_intercalate (fun c hc => (hparts c hc).no_slash) (mt hempty.2 hne), wayTo, hbetween]

theorem relativeDir_isWay_beyond_root :
    IsStart ["srv", "app"] ∧
      IsWay ["srv", "app"] "../../../x/./svc//v1/a.proto" "/srv/app/..//lib/b.proto" "../../../srv/lib" := by
  have hstart : IsStart ["srv", "app"] := by decide
  have hway := relativeDir_isWay hstart "../../../x/./svc//v1/a.proto" "/srv/app/..//lib/b.proto"
  have hvalue : relativeDir ["srv", "app"] "../../../x/./svc//v1/a.proto" "/srv/app/..//lib/b.proto" =
      "../../../srv/lib" := by decide +kernel
  rw [hvalue] at hway
  exact ⟨hstart, hway⟩

end RpcBindings.Path
