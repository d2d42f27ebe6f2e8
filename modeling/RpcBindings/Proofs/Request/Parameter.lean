import Mathlib.Data.List.ReduceOption
import RpcBindings.Proofs.Assignments
import RpcBindings.Proofs.Text.Pieces
import RpcBindings.Proofs.Text.Trimmed
import RpcBindings.Request.Parameter

namespace RpcBindings.Request.Parameter

open RpcBindings.Assignments
open RpcBindings.Text (Blank trim)

/-- A key with or without a value, as a parameter can hold it. -/
structure Entry where
  key : String
  value : Option String
  key_not_blank : ¬Blank key
  key_no_comma : ',' ∉ key.toList
  key_no_sign : '=' ∉ key.toList
  value_no_comma : ∀ v ∈ value, ',' ∉ v.toList

def Entry.setting (e : Entry) : String × String := (trim e.key, e.value.elim "true" trim)

/-- The chunk is a way to write the entry, or it has no key and stands for nothing. -/
inductive Writes : Option Entry → String → Prop where
  | bare {e : Entry} {l r : String} (he : e.value = none) (hl : Blank l) (hr : Blank r) :
    Writes (some e) (l ++ e.key ++ r)
  | valued {e : Entry} {v l r l' r' : String} (he : e.value = some v) (hl : Blank l) (hr : Blank r)
    (hl' : Blank l') (hr' : Blank r') : Writes (some e) (l ++ e.key ++ r ++ "=" ++ (l' ++ v ++ r'))
  | blank {l : String} (hl : Blank l) : Writes none l
  | keyless {l rest : String} (hl : Blank l) (hrest : ',' ∉ rest.toList) : Writes none (l ++ "=" ++ rest)

/-- A setting as it stands in a parameter by itself. -/
structure IsSetting (e : String × String) : Prop where
  key_ne_empty : e.1 ≠ ""
  trim_key : trim e.1 = e.1
  key_no_comma : ',' ∉ e.1.toList
  key_no_sign : '=' ∉ e.1.toList
  trim_value : trim e.2 = e.2
  value_no_comma : ',' ∉ e.2.toList

def print (settings : List (String × String)) : String :=
  ",".intercalate (settings.map fun e => e.1 ++ "=" ++ e.2)

variable {chunk front rest : String} {chunks : List String} {slot : Option Entry} {e : String × String}

theorem entry?_of_bare (h : '=' ∉ chunk.toList) :
    entry? chunk = if trim chunk = "" then none else some (trim chunk, "true") := by
  rw [ entry?, Text.cut_of_not_mem h]
  rfl

theorem entry?_of_sign (h : '=' ∉ front.toList) (rest : String) :
    entry? (front ++ "=" ++ rest) = if trim front = "" then none else some (trim front, trim rest) := by
  have hcut : Text.cut '=' (front ++ "=" ++ rest) = (front, some rest) := Text.cut_append h rest
  rw [ entry?, hcut]
  rfl

theorem not_mem_append_three {c : Char} {s t u : String} (hs : c ∉ s.toList) (ht : c ∉ t.toList)
    (hu : c ∉ u.toList) : c ∉ (s ++ t ++ u).toList := by
  rw [String.toList_append, String.toList_append, List.mem_append, List.mem_append]
  rintro ((h | h) | h)
  · exact hs h
  · exact ht h
  · exact hu h

theorem not_mem_between {c : Char} (hc : Text.isBlank c = false) {l s r : String} (hl : Blank l) (hr : Blank r)
    (hs : c ∉ s.toList) : c ∉ (l ++ s ++ r).toList :=
  not_mem_append_three (hl.not_mem hc) hs (hr.not_mem hc)

theorem Entry.trim_key_ne (e : Entry) : trim e.key ≠ "" := mt Text.trim_eq_empty_iff.1 e.key_not_blank

theorem Writes.entry?_eq (h : Writes slot chunk) : entry? chunk = slot.map Entry.setting := by
  have hsign : Text.isBlank '=' = false := by decide
  cases h with
  | @bare e l r he hl hr =>
    rw [entry?_of_bare (not_mem_between hsign hl hr e.key_no_sign), Text.trim_between hl hr, if_neg e.trim_key_ne,
      Option.map_some, Entry.setting, he]
    rfl
  | @valued e v l r l' r' he hl hr hl' hr' =>
    rw [entry?_of_sign (not_mem_between hsign hl hr e.key_no_sign), Text.trim_between hl hr,
      Text.trim_between hl' hr', if_neg e.trim_key_ne, Option.map_some, Entry.setting, he]
    rfl
  | blank hl =>
    rw [entry?_of_bare (hl.not_mem hsign), if_pos (Text.trim_eq_empty_iff.2 hl)]
    rfl
  | keyless hl hrest =>
    rw [entry?_of_sign (hl.not_mem hsign), if_pos (Text.trim_eq_empty_iff.2 hl)]
    rfl

theorem Writes.no_comma (h : Writes slot chunk) : ',' ∉ chunk.toList := by
  have hcomma : Text.isBlank ',' = false := by decide
  have hsign : ',' ∉ "=".toList := by decide
  cases h with
  | @bare e l r he hl hr => exact not_mem_between hcomma hl hr e.key_no_comma
  | @valued e v l r l' r' he hl hr hl' hr' =>
    apply not_mem_append_three _ hsign
    · exact not_mem_between hcomma hl' hr' (e.value_no_comma v he)
    · exact not_mem_between hcomma hl hr e.key_no_comma
  | blank hl => exact hl.not_mem hcomma
  | keyless hl hrest => exact not_mem_append_three (hl.not_mem hcomma) hsign hrest

theorem not_mem_trim {c : Char} {s : String} (h : c ∉ s.toList) : c ∉ (trim s).toList := mt Text.mem_of_mem_trim h

theorem isSetting_of_entry? (h : entry? chunk = some e) (hcomma : ',' ∉ chunk.toList) : IsSetting e := by
  rcases Text.exists_cut '=' chunk with hsign | ⟨front, rest, hsign, rfl⟩
  · rw [entry?_of_bare hsign] at h
    split at h
    · cases h
    · rename_i hne
      cases h
      have htrue : trim "true" = "true" ∧ ',' ∉ "true".toList := by decide
      exact ⟨hne, Text.trim_trim chunk, not_mem_trim hcomma, not_mem_trim hsign, htrue.1, htrue.2⟩
  · rw [String.toList_append, String.toList_append, List.mem_append, List.mem_append, not_or, not_or] at hcomma
    obtain ⟨⟨hfront, -⟩, hrest⟩ := hcomma
    have hentry := (entry?_of_sign hsign rest).symm.trans h
    split at hentry
    · cases hentry
    · rename_i hne
      cases hentry
      exact ⟨hne, Text.trim_trim front, not_mem_trim hfront, not_mem_trim hsign, Text.trim_trim rest,
        not_mem_trim hrest⟩

theorem IsSetting.entry?_eq (h : IsSetting e) : entry? (e.1 ++ "=" ++ e.2) = some e := by
  rw [entry?_of_sign h.key_no_sign, h.trim_key, h.trim_value, if_neg h.key_ne_empty]

theorem assign_eq_put (key value : String) (settings : List (String × String)) :
    assign key value settings = put key value settings := by
  induction settings with
  | nil => rfl
  | cons e rest ih => rw [assign, put, ih]

theorem parse_eq (text : String) : parse text = putAll [] ((Text.splitOn ',' text).filterMap entry?) := by
  rw [parse, putAll]
  congr 1
  funext acc e
  exact assign_eq_put e.1 e.2 acc

theorem parse_intercalate (h : ∀ c ∈ chunks, ',' ∉ c.toList) :
    parse (",".intercalate chunks) = putAll [] (chunks.filterMap entry?) := by
  by_cases hne : chunks = []
  · rw [hne]
    decide +kernel
  · have hchunks : Text.splitOn ',' (",".intercalate chunks) = chunks := Text.splitOn_intercalate h hne
    rw [parse_eq, hchunks]

theorem outcome_parse (text : String) : Outcome ((Text.splitOn ',' text).filterMap entry?) (parse text) := by
  rw [parse_eq]
  exact outcome_putAll _

theorem isSetting_of_mem_parse {text : String} (h : e ∈ parse text) : IsSetting e := by
  have hlast := ((outcome_parse text).mem_iff e).1 h
  obtain ⟨chunk, hchunk, hentry⟩ := List.mem_filterMap.1 (mem_of_last? hlast)
  exact isSetting_of_entry? hentry (Text.not_mem_of_mem_splitOn hchunk)

theorem parse_print {settings : List (String × String)} (h : ∀ e ∈ settings, IsSetting e)
    (hkeys : (settings.map (·.1)).Nodup) : parse (print settings) = settings := by
  have hcomma : ∀ c ∈ settings.map (fun e => e.1 ++ "=" ++ e.2), ',' ∉ c.toList := by
    intro c hc
    obtain ⟨e, he, rfl⟩ := List.mem_map.1 hc
    exact not_mem_append_three (h e he).key_no_comma (by decide) (h e he).value_no_comma
  have hentries : (settings.map fun e => e.1 ++ "=" ++ e.2).filterMap entry? = settings := by
    have hread : settings.filterMap ( entry? ∘ fun e => e.1 ++ "=" ++ e.2) = settings.filterMap some := by
      apply List.filterMap_congr
      intro e he
      rw [Function.comp_apply, (h e he).entry?_eq]
    rw [List.filterMap_map, hread, List.filterMap_some]
  rw [print, parse_intercalate hcomma, hentries, putAll_of_nodup hkeys]

theorem filterMap_of_writes {slots : List (Option Entry)} (h : List.Forall₂ Writes slots chunks) :
    chunks.filterMap entry? = slots.reduceOption.map Entry.setting := by
  induction h with
  | nil => rfl
  | @cons slot chunk slots chunks hwrites _ ih =>
    rw [List.filterMap_cons, hwrites.entry?_eq]
    cases slot with
    | none => exact ih
    | some e =>
      rw [List.reduceOption_cons_of_some, List.map_cons, ← ih]
      rfl

theorem no_comma_of_writes {slots : List (Option Entry)} (h : List.Forall₂ Writes slots chunks) :
    ∀ c ∈ chunks, ',' ∉ c.toList := by
  induction h with
  | nil => exact List.forall_mem_nil _
  | cons hwrites _ ih => exact List.forall_mem_cons.2 ⟨hwrites.no_comma, ih⟩

/-- Reading undoes writing, however the entries are written. What is read from any text has keys that can
stand by themselves, and written plainly it is read again as it is. -/
theorem parse_written {slots : List (Option Entry)} (h : List.Forall₂ Writes slots chunks) :
    Outcome (slots.reduceOption.map Entry.setting) (parse (",".intercalate chunks)) ∧
      ∀ text, (∀ e ∈ parse text, IsSetting e) ∧ parse (print (parse text)) = parse text := by
  constructor
  · rw [parse_intercalate (no_comma_of_writes h), filterMap_of_writes h]
    exact outcome_putAll _
  · intro text
    have hsettings : ∀ e ∈ parse text, IsSetting e := fun e he => isSetting_of_mem_parse he
    exact ⟨hsettings, parse_print hsettings (outcome_parse text).nodup⟩

def rootEntry : Entry := ⟨"output_root", some "./gen", by decide, by decide, by decide, by decide⟩

def laterRootEntry : Entry := ⟨" output_root", some "out", by decide, by decide, by decide, by decide⟩

def urlEntry : Entry := ⟨"base_url", some "/api?a=b", by decide, by decide, by decide, by decide⟩

def flagEntry : Entry := ⟨"debug", none, by decide, by decide, by decide, by decide⟩

def paddedSlots : List (Option Entry) :=
  [some rootEntry, none, some urlEntry, some flagEntry, none, some laterRootEntry]

def paddedChunks : List String :=
  ["\t" ++ "output_root" ++ " " ++ "=" ++ ("\u2003" ++ "./gen" ++ ""), "\x1c ",
    "" ++ "base_url" ++ "" ++ "=" ++ (" " ++ "/api?a=b" ++ "\u00a0"), "" ++ "debug" ++ "\n",
    " " ++ "=" ++ "lost", "" ++ " output_root" ++ "" ++ "=" ++ ("" ++ "out" ++ "")]

theorem parse_written_padded : List.Forall₂ Writes paddedSlots paddedChunks ∧
    parse (",".intercalate paddedChunks) =
      [("output_root", "out"), ("base_url", "/api?a=b"), ("debug", "true")] := by
  have hwrites : List.Forall₂ Writes paddedSlots paddedChunks :=
    .cons (.valued (e := rootEntry) rfl (by decide) (by decide) (by decide) (by decide)) <|
    .cons (.blank (by decide)) <|
    .cons (.valued (e := urlEntry) rfl (by decide) (by decide) (by decide) (by decide)) <|
    .cons (.bare (e := flagEntry) rfl (by decide) (by decide)) <|
    .cons (.keyless (by decide) (by decide)) <|
    .cons (.valued (e := laterRootEntry) rfl (by decide) (by decide) (by decide) (by decide)) .nil
  obtain ⟨houtcome, -⟩ := parse_written hwrites
  exact ⟨hwrites, houtcome.eq_putAll.trans (by decide +kernel)⟩

end RpcBindings.Request.Parameter
