import RpcBindings.Proofs.Path.Parts

namespace RpcBindings.Path

variable {a b c p : String} {ps : List String}

def front (a : String) : String := if a = "" ∨ Text.endsWith a "/" then a else a ++ "/"

theorem append_eq (hb : isAbsolute b = false) (a : String) : append a b = front a ++ b := by
  rw [append, hb, if_neg Bool.false_ne_true, front]
  split
  · rfl
  · rfl

theorem append_left_cancel (hb : isAbsolute b = false) (hc : isAbsolute c = false)
    (h : append a b = append a c) : b = c := by
  rw [append_eq hb, append_eq hc] at h
  exact (String.append_right_inj _).1 h

theorem empty_append (b : String) : append "" b = b := by
  rw [append]
  split
  · rfl
  · rw [if_pos (.inl rfl), String.empty_append]

theorem isAbsolute_append_of_ne (hne : a ≠ "") (b : String) : isAbsolute (a ++ b) = isAbsolute a := by
  obtain ⟨d, rest, hd⟩ := List.exists_cons_of_ne_nil (mt String.toList_eq_nil_iff.1 hne)
  rw [isAbsolute_eq_head?, isAbsolute_eq_head?, String.toList_append, hd]
  rfl

theorem isAbsolute_append_eq_false (ha : isAbsolute a = false) (hb : isAbsolute b = false) :
    isAbsolute (append a b) = false := by
  by_cases hne : a = ""
  · rw [hne, empty_append, hb]
  · rw [append_eq hb, front]
    split
    · rw [isAbsolute_append_of_ne hne, ha]
    · rw [String.append_assoc, isAbsolute_append_of_ne hne, ha]

theorem endsWith_slash_iff : Text.endsWith p "/" = true ↔ p.toList.getLast? = some '/' := by
  rw [Text.endsWith, List.isSuffixOf_iff_suffix, List.getLast?_eq_some_iff]
  exact exists_congr fun _ => eq_comm

theorem endsWith_slash_append (hne : b ≠ "") (a : String) :
    Text.endsWith (a ++ b) "/" = Text.endsWith b "/" := by
  have hlist : b.toList ≠ [] := mt String.toList_eq_nil_iff.1 hne
  rw [Bool.eq_iff_iff, endsWith_slash_iff, endsWith_slash_iff, String.toList_append, List.getLast?_append,
    List.getLast?_eq_some_getLast hlist, Option.some_or]

theorem front_append (hne : b ≠ "") (a : String) : front (a ++ b) = a ++ front b := by
  have hboth : a ++ b ≠ "" := fun h => hne (String.append_eq_empty_iff.1 h).2
  rw [front, front, endsWith_slash_append hne]
  cases Text.endsWith b "/" with
  | true => rw [if_pos (.inr rfl), if_pos (.inr rfl)]
  | false => rw [if_neg (by simp [hboth]), if_neg (by simp [hne]), String.append_assoc]

theorem append_assoc (hne : b ≠ "") (hb : isAbsolute b = false) (hc : isAbsolute c = false) (a : String) :
    append (append a b) c = append a (append b c) := by
  rw [append_eq (isAbsolute_append_eq_false hb hc), append_eq hc, append_eq hc, append_eq hb, front_append hne,
    String.append_assoc]

theorem join?_three (hb : isAbsolute b = false) (hc : isAbsolute c = false) (hne : c ≠ "") (a : String) :
    join? [a, b, c] = some (append a (append b c)) := by
  by_cases ha : a = ""
  · by_cases hb' : b = ""
    · simp [join?, ha, hb', hne, empty_append]
    · simp [join?, ha, hb', hne, empty_append]
  · by_cases hb' : b = ""
    · simp [join?, ha, hb', hne, empty_append]
    · simp [join?, ha, hb', hne, append_assoc hb' hb hc]

theorem intercalate_concat_append (ps : List String) (c tail : String) :
    "/".intercalate (ps ++ [c ++ tail]) = "/".intercalate (ps ++ [c]) ++ tail := by
  by_cases hps : ps = []
  · rw [hps, List.nil_append, List.nil_append, String.intercalate_singleton, String.intercalate_singleton]
  · rw [intercalate_concat hps, intercalate_concat hps, String.append_assoc, String.append_assoc,
      String.append_assoc]

theorem endsWith_intercalate (h : ∀ c ∈ ps, IsPart c) (hne : ps ≠ []) :
    Text.endsWith ("/".intercalate ps) "/" = false := by
  rw [← Bool.not_eq_true]
  intro hend
  obtain ⟨before, hbefore⟩ := exists_append_slash hend
  have hsplit := splitOn_intercalate (fun c hc => (h c hc).no_slash) hne
  have hempty : "" ∈ Text.splitOn '/' (before ++ "/") := by
    rw [Text.splitOn, String.toList_append]
    change "" ∈ ((before.toList ++ '/' :: []).splitOn '/').map String.ofList
    rw [Text.splitOn_append_sep, List.map_append]
    exact List.mem_append_right _ List.mem_cons_self
  rw [← hbefore, hsplit] at hempty
  exact (h "" hempty).ne_empty rfl

theorem append_intercalate (h : ∀ c ∈ ps, IsPart c) (hb : isAbsolute b = false) :
    append ("/".intercalate ps) b = "/".intercalate (ps ++ [b]) := by
  by_cases hps : ps = []
  · rw [hps, List.nil_append, String.intercalate_singleton]
    exact empty_append b
  · have hne : "/".intercalate ps ≠ "" := by
      intro hempty
      have hparts := parts_intercalate h
      rw [hempty] at hparts
      exact hps hparts.symm
    rw [append_eq hb, front, endsWith_intercalate h hps, if_neg (by simp [hne]), intercalate_concat hps]

end RpcBindings.Path
