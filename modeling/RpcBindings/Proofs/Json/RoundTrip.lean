import RpcBindings.Proofs.Json.Literal
import RpcBindings.Proofs.Json.Written

namespace RpcBindings.Json

open RpcBindings.Data

variable {l : Layout}

theorem insert_keyed {entries : List (String × Value)} {key : String} (h : key ∉ entries.map (·.1))
    (v : Value) : Value.insert (.text key) v (keyed entries) = keyed (entries ++ [(key, v)]) := by
  induction entries with
  | nil => rfl
  | cons e rest ih =>
    obtain ⟨hne, hrest⟩ := List.ne_and_not_mem_of_not_mem_cons h
    have hsame : (e.1 == key) = false := beq_false_of_ne (Ne.symm hne)
    have hkey : ¬ (Value.text e.1).sameKey (.text key) = true := Bool.eq_false_iff.1 hsame
    rw [keyed, List.map_cons, Value.insert, if_neg hkey]
    exact congrArg ((Value.text e.1, e.2) :: ·) (ih hrest)

theorem foldl_insert_keyed (front rest : List (String × Value)) (h : ((front ++ rest).map (·.1)).Nodup) :
    (keyed rest).foldl (fun acc e => Value.insert e.1 e.2 acc) (keyed front) = keyed (front ++ rest) := by
  induction rest generalizing front with
  | nil =>
    rw [List.append_nil]
    rfl
  | cons e rest ih =>
    have hnot : e.1 ∉ front.map (·.1) := by
      intro hmem
      rw [List.map_append, List.nodup_append] at h
      exact h.2.2 _ hmem _ (.head _) rfl
    have hstep : (keyed (e :: rest)).foldl (fun acc e => Value.insert e.1 e.2 acc) (keyed front) =
        (keyed rest).foldl (fun acc e => Value.insert e.1 e.2 acc)
          (Value.insert (.text e.1) e.2 (keyed front)) := rfl
    have hsplit : front ++ e :: rest = front ++ [e] ++ rest := List.append_cons front e rest
    rw [hsplit] at h ⊢
    rw [hstep, insert_keyed hnot]
    exact ih (front ++ [e]) h

theorem ofEntries_keyed {entries : List (String × Value)} (h : (entries.map (·.1)).Nodup) :
    Value.ofEntries (keyed entries) = keyed entries := foldl_insert_keyed [] entries h

theorem stops_cons (c : Char) (hdigit : c.isDigit = false) (hc : c ≠ '.' ∧ c ≠ 'e' ∧ c ≠ 'E') (s : List Char) :
    Stops (c :: s) := by
  intro d hd
  cases hd
  exact ⟨hdigit, hc⟩

theorem stops_blank {blank s : List Char} (hblank : ∀ c ∈ blank, isSpace c = true) (hs : Stops s) :
    Stops (blank ++ s) := by
  cases blank with
  | nil => exact hs
  | cons c rest =>
    have hc := hblank c (.head _)
    rw [List.cons_append]
    simp only [isSpace, Bool.or_eq_true, beq_iff_eq] at hc
    rcases hc with ((rfl | rfl) | rfl) | rfl
    all_goals exact stops_cons _ rfl (by decide) rest

theorem stops_items (depth : Nat) (vs : List Value) {s : List Char} (hs : Stops s) :
    Stops ((writeItems l depth false vs).toList ++ s) := by
  cases vs with
  | nil =>
    rw [toList_writeItems_nil]
    exact hs
  | cons v vs =>
    obtain ⟨blank, -, htext⟩ := toList_writeItems_cons (l := l) depth v vs
    rw [htext]
    exact stops_cons ',' rfl (by decide) _

theorem stops_entries (depth : Nat) (es : List (String × Value)) {s : List Char} (hs : Stops s) :
    Stops (laterEntries l depth es ++ s) := by
  cases es with
  | nil =>
    rw [laterEntries_nil]
    exact hs
  | cons e es =>
    obtain ⟨blank, -, htext⟩ := laterEntries_cons (l := l) depth e es
    rw [htext]
    exact stops_cons ',' rfl (by decide) _

/-- At every depth, with enough fuel, the value is read back and what follows it is left. -/
def ReadsBack (l : Layout) (v : Value) : Prop :=
  ∀ depth fuel rest, (write l depth v).toList.length ≤ fuel → Stops rest →
    readValue fuel ((write l depth v).toList ++ rest) = .ok (v, rest)

theorem readItems_write {v : Value} {vs : List Value}
    (hread : ∀ w ∈ v :: vs, ReadsBack l w) (hportable : ∀ w ∈ v :: vs, Portable w)
    {blank : List Char} (hblank : ∀ c ∈ blank, isSpace c = true) (rest : List Char) (fuel depth : Nat)
    (hfuel : (write l depth v).toList.length + (writeItems l depth false vs).toList.length < fuel) :
    readItems fuel ((write l depth v).toList ++
      ((writeItems l depth false vs).toList ++ (blank ++ ']' :: rest))) = .ok (v :: vs, rest) := by
  induction vs generalizing v fuel with
  | nil =>
    cases fuel with
    | zero => cases hfuel
    | succ fuel =>
      have hstops : Stops (blank ++ ']' :: rest) := stops_blank hblank (stops_cons ']' rfl (by decide) rest)
      have hspace : skipSpace (blank ++ ']' :: rest) = ']' :: rest := skipSpace_blank hblank _
      rw [toList_writeItems_nil, List.nil_append, readItems,
        hread v (.head _) depth fuel _ (by omega) hstops]
      simp only [bind, Except.bind, hspace]
      rfl
  | cons w vs ih =>
    cases fuel with
    | zero => cases hfuel
    | succ fuel =>
      obtain ⟨gap, hgap, htext⟩ := toList_writeItems_cons (l := l) depth w vs
      have hstops := stops_items (l := l) depth (w :: vs)
        (stops_blank hblank (stops_cons ']' rfl (by decide) rest))
      have hbegins := (begins_write (l := l) (hportable w (.tail _ (.head _))) depth).append
        ((writeItems l depth false vs).toList ++ (blank ++ ']' :: rest))
      rw [htext] at hfuel hstops ⊢
      simp only [List.length_cons, List.length_append] at hfuel
      rw [readItems, hread v (.head _) depth fuel _ (by omega) hstops]
      have hcomma : ∀ s, skipSpace (',' :: s) = ',' :: s := fun s => rfl
      have hitems := ih (fun u hu => hread u (.tail _ hu)) (fun u hu => hportable u (.tail _ hu)) fuel
        (by omega)
      simp only [bind, Except.bind, List.cons_append, List.append_assoc, hcomma, skipSpace_blank hgap,
        hbegins.skipSpace, hitems]
      rfl

theorem readEntries_entry (hl : l.repertoire.Printed) {depth : Nat} (fuel : Nat) {e : String × Value}
    (hread : ReadsBack l e.2) (hfuel : (entryText l depth e).length ≤ fuel) {s : List Char} (hs : Stops s)
    (hbegins : Begins (write l depth e.2).toList) :
    ∃ tail, entryText l depth e ++ s = '"' :: tail ∧
      (∀ start, readText start 0 [] tail = .ok (e.1, ':' :: ' ' :: ((write l depth e.2).toList ++ s))) ∧
      readValue fuel (skipSpace (' ' :: ((write l depth e.2).toList ++ s))) = .ok (e.2, s) := by
  obtain ⟨tail, htext, hkey⟩ := readText_literal hl e.1 (':' :: ' ' :: ((write l depth e.2).toList ++ s))
  refine ⟨tail, ?_, hkey, ?_⟩
  · rw [← htext, entryText, List.append_assoc]
    rfl
  · have hvalue : skipSpace (' ' :: ((write l depth e.2).toList ++ s)) = (write l depth e.2).toList ++ s :=
      (hbegins.append s).skipSpace
    rw [hvalue]
    apply hread depth fuel s _ hs
    simp only [entryText, List.length_append, List.length_cons] at hfuel
    omega

theorem readEntries_write (hl : l.repertoire.Printed) {e : String × Value}
    {es : List (String × Value)} (hread : ∀ f ∈ e :: es, ReadsBack l f.2)
    (hportable : ∀ f ∈ e :: es, Portable f.2) {blank : List Char} (hblank : ∀ c ∈ blank, isSpace c = true)
    (rest : List Char) (fuel depth : Nat)
    (hfuel : (entryText l depth e).length + (laterEntries l depth es).length < fuel) :
    readEntries fuel (entryText l depth e ++ (laterEntries l depth es ++ (blank ++ '}' :: rest))) =
      .ok (keyed (e :: es), rest) := by
  have hcolon : ∀ s, skipSpace (':' :: s) = ':' :: s := fun s => rfl
  induction es generalizing e fuel with
  | nil =>
    cases fuel with
    | zero => cases hfuel
    | succ fuel =>
      have hstops : Stops (blank ++ '}' :: rest) :=
        stops_blank hblank (stops_cons '}' rfl (by decide) rest)
      have hspace : skipSpace (blank ++ '}' :: rest) = '}' :: rest := skipSpace_blank hblank _
      obtain ⟨tail, htext, hkey, hvalue⟩ := readEntries_entry hl fuel (hread e (.head _)) (by omega)
        hstops (begins_write (hportable e (.head _)) depth)
      rw [laterEntries_nil, List.nil_append, htext, readEntries, hkey]
      simp only [bind, Except.bind, hcolon, hvalue, hspace]
      rfl
  | cons f es ih =>
    cases fuel with
    | zero => cases hfuel
    | succ fuel =>
      obtain ⟨gap, hgap, hlater⟩ := laterEntries_cons (l := l) depth f es
      have hstops := stops_entries (l := l) depth (f :: es)
        (stops_blank hblank (stops_cons '}' rfl (by decide) rest))
      have hbegins : Begins (entryText l depth f) := (begins_literal l.repertoire f.1).append _
      have hentry := hbegins.append (laterEntries l depth es ++ (blank ++ '}' :: rest))
      rw [hlater] at hfuel
      simp only [List.length_cons, List.length_append] at hfuel
      obtain ⟨tail, htext, hkey, hvalue⟩ := readEntries_entry hl fuel (hread e (.head _)) (by omega)
        hstops (begins_write (hportable e (.head _)) depth)
      have hentries := ih (fun u hu => hread u (.tail _ hu)) (fun u hu => hportable u (.tail _ hu)) fuel
        (by omega)
      have hcomma : ∀ s, skipSpace (',' :: s) = ',' :: s := fun s => rfl
      rw [htext, readEntries, hkey]
      simp only [bind, Except.bind, hcolon, hvalue]
      rw [hlater]
      simp only [List.cons_append, List.append_assoc, hcomma, skipSpace_blank hgap]
      rw [hentry.skipSpace, hentries]
      rfl

theorem readValue_items {c : Char} {s s' rest : List Char} {items : List Value} {fuel : Nat}
    (hspace : skipSpace s = c :: s') (hc : c ≠ ']') (h : readItems fuel (c :: s') = .ok (items, rest)) :
    readValue (fuel + 1) ('[' :: s) = .ok (.list items, rest) := by
  rw [readValue, hspace]
  split
  · rename_i heq
    cases heq
    exact absurd rfl hc
  · rw [h]
    rfl

theorem readValue_entries {c : Char} {s s' rest : List Char} {entries : List (String × Value)} {fuel : Nat}
    (hspace : skipSpace s = c :: s') (hc : c ≠ '}') (hkeys : (entries.map (·.1)).Nodup)
    (h : readEntries fuel (c :: s') = .ok (keyed entries, rest)) :
    readValue (fuel + 1) ('{' :: s) = .ok (.record entries, rest) := by
  rw [readValue, hspace]
  split
  · rename_i heq
    cases heq
    exact absurd rfl hc
  · rw [h]
    simp only [bind, Except.bind, ofEntries_keyed hkeys]
    rfl

theorem readsBack_int {n : Int} (hn : ShortInt n) : ReadsBack l (.int n) := by
  intro depth fuel rest hfuel hstops
  have hnumber := readNumber_int hn hstops
  rw [write] at hfuel ⊢
  obtain ⟨c, ds, hc, htext | htext⟩ := toString_int_cases n
  · rw [htext] at hfuel hnumber ⊢
    cases fuel with
    | zero => cases hfuel
    | succ fuel => exact (readValue_digit hc fuel _).trans hnumber
  · rw [htext] at hfuel hnumber ⊢
    cases fuel with
    | zero => cases hfuel
    | succ fuel => exact (readValue_minus hc fuel _).trans hnumber

theorem readsBack_text (hl : l.repertoire.Printed) (s : String) : ReadsBack l (.text s) := by
  intro depth fuel rest hfuel hstops
  obtain ⟨tail, htext, hread⟩ := readText_literal hl s rest
  have hpos := List.length_pos_iff.2 (begins_literal l.repertoire s).ne_nil
  rw [write_text] at hfuel ⊢
  cases fuel with
  | zero => omega
  | succ fuel =>
    rw [htext]
    exact readValue_quote fuel (hread _)

theorem readsBack_list {items : List Value} (hread : ∀ v ∈ items, ReadsBack l v)
    (hportable : ∀ v ∈ items, Portable v) : ReadsBack l (.list items) := by
  intro depth fuel rest hfuel hstops
  cases items with
  | nil =>
    rw [toList_write_nil] at hfuel ⊢
    cases fuel with
    | zero => cases hfuel
    | succ fuel => rfl
  | cons v vs =>
    rw [toList_write_cons] at hfuel ⊢
    simp only [List.length_cons, List.length_append, List.length_nil] at hfuel
    cases fuel with
    | zero => omega
    | succ fuel =>
      have hbegins := (begins_write (l := l) (hportable v (.head _)) (depth + 1)).append
        ((writeItems l (depth + 1) false vs).toList ++ ((l.lineBreak depth).toList ++ ']' :: rest))
      have hitems := readItems_write hread hportable (isSpace_lineBreak l depth) rest fuel (depth + 1)
        (by omega)
      have hspace := (skipSpace_blank (isSpace_lineBreak l (depth + 1)) _).trans hbegins.skipSpace
      obtain ⟨c, tail, htext, -, hbracket, -⟩ := hbegins
      rw [htext] at hitems hspace
      have hvalue := readValue_items hspace hbracket hitems
      simpa only [List.cons_append, List.append_assoc, List.nil_append, htext] using hvalue

theorem readsBack_record (hl : l.repertoire.Printed) {entries : List (String × Value)}
    (hkeys : (entries.map (·.1)).Nodup) (hread : ∀ e ∈ entries, ReadsBack l e.2)
    (hportable : ∀ e ∈ entries, Portable e.2) : ReadsBack l (.record entries) := by
  intro depth fuel rest hfuel hstops
  cases entries with
  | nil =>
    rw [toList_write_empty] at hfuel ⊢
    cases fuel with
    | zero => cases hfuel
    | succ fuel => rfl
  | cons e es =>
    rw [toList_write_record] at hfuel ⊢
    simp only [List.length_cons, List.length_append, List.length_nil] at hfuel
    cases fuel with
    | zero => omega
    | succ fuel =>
      have hkey : Begins (entryText l (depth + 1) e) := (begins_literal l.repertoire e.1).append _
      have hbegins := hkey.append
        (laterEntries l (depth + 1) es ++ ((l.lineBreak depth).toList ++ '}' :: rest))
      have hentries := readEntries_write hl hread hportable (isSpace_lineBreak l depth) rest fuel
        (depth + 1) (by omega)
      have hspace := (skipSpace_blank (isSpace_lineBreak l (depth + 1)) _).trans hbegins.skipSpace
      obtain ⟨c, tail, htext, -, -, hbrace, -⟩ := hbegins
      rw [htext] at hentries hspace
      have hvalue := readValue_entries hspace hbrace hkeys hentries
      simpa only [List.cons_append, List.append_assoc, List.nil_append, htext] using hvalue

/-- Values that JSON has are read back, whatever their layout. -/
theorem readsBack_of_portable (hl : l.repertoire.Printed) {v : Value} (h : Portable v) : ReadsBack l v := by
  induction h with
  | null =>
    intro depth fuel rest hfuel hstops
    rw [toList_write_null] at hfuel ⊢
    cases fuel with
    | zero => cases hfuel
    | succ fuel => rfl
  | bool b =>
    intro depth fuel rest hfuel hstops
    rw [toList_write_bool] at hfuel ⊢
    cases fuel with
    | zero => cases b <;> cases hfuel
    | succ fuel =>
      cases b with
      | true => rfl
      | false => rfl
  | int hn => exact readsBack_int hn
  | text s => exact readsBack_text hl s
  | list hportable ih => exact readsBack_list ih hportable
  | record hkeys hportable ih => exact readsBack_record hl hkeys ih hportable

theorem read_write (hl : l.repertoire.Printed) {v : Value} (h : Portable v) (depth : Nat) :
    read (write l depth v) = .ok v := by
  have hbegins := begins_write (l := l) h depth
  have hend : Stops [] := by
    intro c hc
    cases hc
  have hvalue := readsBack_of_portable hl h depth (2 * (write l depth v).toList.length + 2) [] (by omega) hend
  have hmark : (write l depth v).toList.head? ≠ some '\ufeff' := by
    obtain ⟨c, tail, htext, -, -, -, hc⟩ := hbegins
    rw [htext]
    intro heq
    exact hc (Option.some.inj heq)
  rw [List.append_nil] at hvalue
  rw [read]
  dsimp only
  rw [if_neg hmark, hbegins.skipSpace, hvalue]
  rfl

end RpcBindings.Json
