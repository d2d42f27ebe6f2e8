import RpcBindings.Text.Search

namespace RpcBindings.Text

theorem startsWith_dot_of_cons {text : String} {c : Char} {rest : List Char} (h : text.toList = c :: rest) :
    startsWith text "." = (c == '.') := by
  rw [startsWith, h, show ".".toList = ['.'] from rfl, List.isPrefixOf_cons_cons, List.isPrefixOf_nil_left,
    Bool.and_true]
  exact BEq.comm

theorem dropLeading_eq_self {text : String} (h : startsWith text "." = false) :
    dropLeading '.' text = text := by
  rw [dropLeading]
  cases hr : text.toList with
  | nil => rw [List.dropWhile_nil, ← hr, String.ofList_toList]
  | cons c rest =>
    rw [startsWith_dot_of_cons hr] at h
    rw [List.dropWhile_cons_of_neg (by simpa using h), ← hr, String.ofList_toList]

theorem dropLeading_dot {text : String} (h : startsWith text "." = false) :
    dropLeading '.' ("." ++ text) = text := by
  rw [dropLeading, String.toList_append, show ".".toList = ['.'] from rfl, List.singleton_append,
    List.dropWhile_cons_of_pos (by simp)]
  exact dropLeading_eq_self h

theorem head?_splitOn (sep : Char) (text : String) :
    (splitOn sep text).head? = some (String.ofList (text.toList.takeWhile (· != sep))) := by
  have h (cs acc : List Char) : (List.splitOnPPrepend (· == sep) cs acc).head? =
      some (acc.reverse ++ cs.takeWhile (· != sep)) := by
    induction cs generalizing acc with
    | nil => simp [List.splitOnPPrepend]
    | cons c rest ih =>
      by_cases hc : c = sep
      · simp [List.splitOnPPrepend, hc]
      · simp [List.splitOnPPrepend, hc, ih]
  rw [splitOn, List.head?_map, List.splitOn, List.splitOnP, h]
  rfl

end RpcBindings.Text
