import Mathlib.Data.List.Infix
import RpcBindings.Text.Search

namespace RpcBindings.Text

variable {needle xs rest : List Char}

theorem eraseFrom_skip (needle xs rest : List Char) :
    eraseFrom needle xs.length (xs ++ rest) = eraseFrom needle 0 rest := by
  induction xs with
  | nil => rfl
  | cons x xs ih => exact ih

theorem eraseFrom_needle (h : needle ≠ []) (rest : List Char) :
    eraseFrom needle 0 (needle ++ rest) = eraseFrom needle 0 rest := by
  obtain ⟨c, tail, rfl⟩ := List.exists_cons_of_ne_nil h
  have hprefix : (c :: tail).isPrefixOf (c :: (tail ++ rest)) = true :=
    List.isPrefixOf_iff_prefix.2 (List.prefix_append (c :: tail) rest)
  rw [List.cons_append, eraseFrom, if_pos hprefix]
  exact eraseFrom_skip (c :: tail) tail rest

theorem eraseFrom_keep {c : Char} (h : ¬needle <+: c :: rest) :
    eraseFrom needle 0 (c :: rest) = c :: eraseFrom needle 0 rest := by
  rw [eraseFrom, if_neg (mt List.isPrefixOf_iff_prefix.1 h)]

theorem eraseFrom_replicate (h : needle ≠ []) (n : Nat) (rest : List Char) :
    eraseFrom needle 0 ((List.replicate n needle).flatten ++ rest) = eraseFrom needle 0 rest := by
  induction n with
  | zero => rfl
  | succ n ih =>
    rw [List.replicate_succ, List.flatten_cons, List.append_assoc, eraseFrom_needle h, ih]

/-- Text in which no occurrence starts is kept. -/
theorem eraseFrom_append (h : ∀ ys zs, xs = ys ++ zs → zs ≠ [] → ¬needle <+: zs ++ rest) :
    eraseFrom needle 0 (xs ++ rest) = xs ++ eraseFrom needle 0 rest := by
  induction xs with
  | nil => rfl
  | cons x xs ih =>
    have hstart : ¬needle <+: x :: (xs ++ rest) := h [] (x :: xs) rfl (List.cons_ne_nil x xs)
    rw [List.cons_append, eraseFrom_keep hstart, ih fun ys zs heq => h (x :: ys) zs (congrArg (x :: ·) heq)]
    rfl

/-- If its first character occurs in the needle once, no occurrence starts in a text without one, even if
further occurrences follow. -/
theorem not_prefix_append_replicate {c : Char} {tail zs : List Char} (hc : c ∉ tail)
    (hzs : ¬c :: tail <+: zs) (hne : zs ≠ []) (n : Nat) :
    ¬c :: tail <+: zs ++ (List.replicate n (c :: tail)).flatten := by
  intro hprefix
  rcases List.prefix_or_prefix_of_prefix hprefix (List.prefix_append zs _) with h | ⟨t, ht⟩
  · exact hzs h
  · cases t with
    | nil => exact hzs (by rw [← ht, List.append_nil])
    | cons d t =>
      have hnext : d :: t <+: (List.replicate n (c :: tail)).flatten := by
        rw [← List.prefix_append_right_inj zs, ht]
        exact hprefix
      have hd : d = c := by
        cases n with
        | zero => exact absurd hnext (by simp)
        | succ n => exact (List.cons_prefix_cons.1 hnext).1
      obtain ⟨z, zs, rfl⟩ := List.exists_cons_of_ne_nil hne
      have htail : zs ++ d :: t = tail := (List.cons.inj ht).2
      exact hc (hd ▸ htail ▸ List.mem_append_right zs List.mem_cons_self)

/-- Occurrences at both ends of a text are dropped, and the rest is kept if there is none in it. -/
theorem eraseFrom_between {c : Char} {tail : List Char} (hc : c ∉ tail) (hxs : ¬c :: tail <:+: xs)
    (m n : Nat) :
    eraseFrom (c :: tail) 0 ((List.replicate m (c :: tail)).flatten ++ (xs ++
      (List.replicate n (c :: tail)).flatten)) = xs := by
  have hend : eraseFrom (c :: tail) 0 (List.replicate n (c :: tail)).flatten = [] := by
    rw [← List.append_nil (List.replicate n (c :: tail)).flatten,
      eraseFrom_replicate (List.cons_ne_nil c tail)]
    rfl
  rw [eraseFrom_replicate (List.cons_ne_nil c tail), eraseFrom_append, hend, List.append_nil]
  intro ys zs heq hne
  refine not_prefix_append_replicate hc (fun h => hxs ?_) hne n
  rw [heq]
  exact h.isInfix.trans (List.suffix_append ys zs).isInfix

/-- What is left of a text without the occurrences of the needle. Behind one of them the search goes on after
its end, so they do not overlap, and what is left may hold the needle again. -/
inductive Erased (needle : List Char) : List Char → List Char → Prop where
  | done : Erased needle [] []
  | drop {rest left : List Char} (h : Erased needle rest left) : Erased needle (needle ++ rest) left
  | keep {c : Char} {rest left : List Char} (hstart : ¬needle <+: c :: rest) (h : Erased needle rest left) :
    Erased needle (c :: rest) (c :: left)

variable {left : List Char}

theorem erased_eraseFrom (hne : needle ≠ []) (xs : List Char) : Erased needle xs (eraseFrom needle 0 xs) := by
  induction hlen : xs.length using Nat.strongRecOn generalizing xs with
  | ind n ih =>
    cases xs with
    | nil => exact .done
    | cons c rest =>
      rw [List.length_cons] at hlen
      by_cases h : needle <+: c :: rest
      · obtain ⟨tail, htail⟩ := h
        have hshort := congrArg List.length htail
        have hpos := List.length_pos_iff.2 hne
        rw [List.length_append, List.length_cons] at hshort
        rw [← htail, eraseFrom_needle hne]
        exact .drop (ih tail.length (by omega) tail rfl)
      · rw [eraseFrom_keep h]
        exact .keep h (ih rest.length (by omega) rest rfl)

theorem Erased.eq_eraseFrom (h : Erased needle xs left) (hne : needle ≠ []) : left = eraseFrom needle 0 xs := by
  induction h with
  | done => rfl
  | drop h ih => rw [eraseFrom_needle hne, ih]
  | keep hstart h ih => rw [eraseFrom_keep hstart, ih]

theorem Erased.sublist (h : Erased needle xs left) : left.Sublist xs := by
  induction h with
  | done => exact List.nil_sublist []
  | drop h ih => exact ih.trans (List.sublist_append_right needle _)
  | keep hstart h ih => exact ih.cons_cons _

theorem Erased.length_lt (h : Erased needle xs left) (hne : needle ≠ []) (hstart : needle <+: xs) :
    left.length < xs.length := by
  obtain ⟨rest, rfl⟩ := hstart
  have hleft := h.eq_eraseFrom hne
  rw [eraseFrom_needle hne] at hleft
  have hrest := (erased_eraseFrom hne rest).sublist.length_le
  have hpos := List.length_pos_iff.2 hne
  rw [hleft, List.length_append]
  omega

end RpcBindings.Text
