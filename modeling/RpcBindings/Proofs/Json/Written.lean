import RpcBindings.Json.Writer
import RpcBindings.Proofs.Json.Numbers

namespace RpcBindings.Json

open RpcBindings.Data

theorem skipSpace_blank {blank : List Char} (h : ∀ c ∈ blank, isSpace c = true) (s : List Char) :
    skipSpace (blank ++ s) = skipSpace s := List.dropWhile_append_of_pos h

theorem isSpace_lineBreak (l : Layout) (depth : Nat) : ∀ c ∈ (l.lineBreak depth).toList, isSpace c = true := by
  rw [Layout.lineBreak]
  cases l.indent with
  | none => exact List.forall_mem_nil _
  | some width =>
    intro c hc
    rw [String.toList_append] at hc
    rcases List.mem_append.1 hc with hc | hc
    · cases List.mem_singleton.1 hc
      rfl
    · rw [String.toList_ofList] at hc
      cases List.eq_of_mem_replicate hc
      rfl

def Begins (s : List Char) : Prop :=
  ∃ c rest, s = c :: rest ∧ isSpace c = false ∧ c ≠ ']' ∧ c ≠ '}' ∧ c ≠ '\ufeff'

theorem Begins.append {s : List Char} (h : Begins s) (rest : List Char) : Begins (s ++ rest) := by
  obtain ⟨c, tail, rfl, hc⟩ := h
  exact ⟨c, tail ++ rest, rfl, hc⟩

theorem Begins.ne_nil {s : List Char} (h : Begins s) : s ≠ [] := by
  obtain ⟨c, tail, rfl, -⟩ := h
  exact List.cons_ne_nil _ _

theorem Begins.skipSpace {s : List Char} (h : Begins s) : skipSpace s = s := by
  obtain ⟨c, tail, rfl, hc, -⟩ := h
  exact List.dropWhile_cons_of_neg (by simp [hc])

/-- Values that JSON has: integers that a reader takes, and objects whose keys are texts, each one once. -/
inductive Portable : Value → Prop where
  | null : Portable .null
  | bool (b : Bool) : Portable (.bool b)
  | int {n : Int} (h : ShortInt n) : Portable (.int n)
  | text (s : String) : Portable (.text s)
  | list {items : List Value} (h : ∀ v ∈ items, Portable v) : Portable (.list items)
  | record {entries : List (String × Value)} (hkeys : (entries.map (·.1)).Nodup)
      (h : ∀ e ∈ entries, Portable e.2) : Portable (.record entries)

def keyed (entries : List (String × Value)) : List (Value × Value) := entries.map fun e => (.text e.1, e.2)

variable {l : Layout}

theorem toList_write_null (depth : Nat) : (write l depth .null).toList = ['n', 'u', 'l', 'l'] := by
  rw [write_null]
  rfl

theorem toList_write_bool (depth : Nat) (b : Bool) :
    (write l depth (.bool b)).toList =
      if b then ['t', 'r', 'u', 'e'] else ['f', 'a', 'l', 's', 'e'] := by
  rw [write]
  cases b with
  | true => rfl
  | false => rfl

theorem write_text (depth : Nat) (s : String) : write l depth (.text s) = literal l.repertoire s := by
  rw [write]
  · rfl
  -- a text has none of the other shapes
  all_goals
    intros
    contradiction

theorem toList_write_nil (depth : Nat) : (write l depth (.list [])).toList = ['[', ']'] := by
  rw [write]
  rfl

theorem toList_write_cons (depth : Nat) (v : Value) (vs : List Value) :
    (write l depth (.list (v :: vs))).toList =
      '[' :: ((l.lineBreak (depth + 1)).toList ++ ((write l (depth + 1) v).toList ++
        ((writeItems l (depth + 1) false vs).toList ++ ((l.lineBreak depth).toList ++ [']'])))) := by
  rw [write, writeItems]
  · simp [String.toList_append]
  · intro h
    cases h

theorem toList_write_empty (depth : Nat) : (write l depth (.record [])).toList = ['{', '}'] := by
  rw [Value.record, List.map_nil, write]
  rfl

def entryText (l : Layout) (depth : Nat) (e : String × Value) : List Char :=
  (literal l.repertoire e.1).toList ++ (':' :: ' ' :: (write l depth e.2).toList)

def laterEntries (l : Layout) (depth : Nat) (es : List (String × Value)) : List Char :=
  (writeEntries l depth false (keyed es)).toList

theorem toList_write_record (depth : Nat) (e : String × Value) (es : List (String × Value)) :
    (write l depth (.record (e :: es))).toList =
      '{' :: ((l.lineBreak (depth + 1)).toList ++ (entryText l (depth + 1) e ++
        (laterEntries l (depth + 1) es ++ ((l.lineBreak depth).toList ++ ['}'])))) := by
  obtain ⟨k, v⟩ := e
  rw [Value.record, List.map_cons, write, writeEntries, entryText, laterEntries]
  · simp [String.toList_append, keyLiteral, Value.plainText, keyed]
  · intro h
    cases h

theorem exists_comma (l : Layout) (depth : Nat) : ∃ blank, (∀ c ∈ blank, isSpace c = true) ∧
    l.comma.toList ++ (l.lineBreak depth).toList = ',' :: blank := by
  rw [Layout.comma]
  cases l.indent.isSome with
  | true => exact ⟨_, isSpace_lineBreak l depth, rfl⟩
  | false =>
    refine ⟨' ' :: (l.lineBreak depth).toList, ?_, rfl⟩
    intro c hc
    rcases List.mem_cons.1 hc with rfl | hc
    · rfl
    · exact isSpace_lineBreak l depth c hc

theorem toList_writeItems_nil (depth : Nat) : (writeItems l depth false []).toList = [] := by
  rw [writeItems]
  rfl

theorem toList_writeItems_cons (depth : Nat) (v : Value) (vs : List Value) :
    ∃ blank, (∀ c ∈ blank, isSpace c = true) ∧ (writeItems l depth false (v :: vs)).toList =
      ',' :: (blank ++ ((write l depth v).toList ++ (writeItems l depth false vs).toList)) := by
  obtain ⟨blank, hblank, hcomma⟩ := exists_comma l depth
  refine ⟨blank, hblank, ?_⟩
  rw [writeItems, if_neg Bool.false_ne_true, String.toList_append, String.toList_append,
    String.toList_append, hcomma]
  simp only [List.cons_append, List.append_assoc]

theorem laterEntries_nil (depth : Nat) : laterEntries l depth [] = [] := by
  rw [laterEntries, keyed, List.map_nil, writeEntries]
  rfl

theorem laterEntries_cons (depth : Nat) (e : String × Value) (es : List (String × Value)) :
    ∃ blank, (∀ c ∈ blank, isSpace c = true) ∧
      laterEntries l depth (e :: es) = ',' :: (blank ++ (entryText l depth e ++ laterEntries l depth es)) := by
  obtain ⟨blank, hblank, hcomma⟩ := exists_comma l depth
  obtain ⟨k, v⟩ := e
  refine ⟨blank, hblank, ?_⟩
  rw [laterEntries, keyed, List.map_cons, writeEntries, if_neg Bool.false_ne_true, String.toList_append,
    String.toList_append, String.toList_append, String.toList_append, String.toList_append, hcomma]
  simp [entryText, laterEntries, keyed, keyLiteral, Value.plainText]

theorem begins_of_isDigit {c : Char} (hc : c.isDigit = true) (rest : List Char) : Begins (c :: rest) := by
  refine ⟨c, rest, rfl, ?_, ?_, ?_, ?_⟩
  · rw [isSpace]
    have h1 := ne_of_isDigit (d := ' ') hc rfl
    have h2 := ne_of_isDigit (d := '\t') hc rfl
    have h3 := ne_of_isDigit (d := '\n') hc rfl
    have h4 := ne_of_isDigit (d := '\r') hc rfl
    simp [h1.symm, h2.symm, h3.symm, h4.symm]
  · exact (ne_of_isDigit hc rfl).symm
  · exact (ne_of_isDigit hc rfl).symm
  · exact (ne_of_isDigit hc rfl).symm

theorem begins_literal (r : Repertoire) (s : String) : Begins (literal r s).toList := by
  have htext : (literal r s).toList = '"' :: (s.toList.flatMap (escapeChar r) ++ ['"']) := by simp [literal]
  exact ⟨'"', _, htext, rfl, by decide, by decide, by decide⟩

theorem begins_write {v : Value} (h : Portable v) (depth : Nat) : Begins (write l depth v).toList := by
  cases h with
  | null => exact ⟨'n', _, toList_write_null depth, rfl, by decide, by decide, by decide⟩
  | bool b =>
    rw [toList_write_bool]
    cases b with
    | true => exact ⟨'t', _, rfl, rfl, by decide, by decide, by decide⟩
    | false => exact ⟨'f', _, rfl, rfl, by decide, by decide, by decide⟩
  | @int n h =>
    obtain ⟨c, ds, hc, htext | htext⟩ := toString_int_cases n
    · rw [write, htext]
      exact begins_of_isDigit hc ds
    · rw [write, htext]
      exact ⟨'-', _, rfl, rfl, by decide, by decide, by decide⟩
  | text s =>
    rw [write_text]
    exact begins_literal l.repertoire s
  | @list items h =>
    cases items with
    | nil => exact ⟨'[', _, toList_write_nil depth, rfl, by decide, by decide, by decide⟩
    | cons v vs => exact ⟨'[', _, toList_write_cons depth v vs, rfl, by decide, by decide, by decide⟩
  | @record entries hkeys h =>
    cases entries with
    | nil => exact ⟨'{', _, toList_write_empty depth, rfl, by decide, by decide, by decide⟩
    | cons e es => exact ⟨'{', _, toList_write_record depth e es, rfl, by decide, by decide, by decide⟩

end RpcBindings.Json
