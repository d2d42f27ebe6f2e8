import RpcBindings.Proofs.Export.Prepared

namespace RpcBindings.Export

open RpcBindings.Files
open RpcBindings.Path
open RpcBindings.Files.Action
open RpcBindings.Files.Tree (Below)

def Lasting (names : List String) : Prop := ∀ n ∈ names, ∀ m ∈ names, ∀ k, n ≠ Place.temporaryName m k

variable {o : Options} {place : Place} {t t₁ t₂ t' t₁' : Tree} {name : String} {names more : List String}
  {files : List (String × String)} {content : ByteArray}

theorem Lasting.mono {names' : List String} (h : Lasting names') (hsub : names ⊆ names') : Lasting names :=
  fun n hn m hm => h n (hsub hn) m (hsub hm)

theorem lasting_of_plain (h : ∀ n ∈ names, n.toList.head? ≠ some '.') : Lasting names := by
  intro n hn m _ k heq
  apply h n hn
  rw [heq]
  simp only [Place.temporaryName, String.toList_append]
  rfl

namespace Options

/-- The file that is written after all others, if any. -/
def lastOutputs (o : Options) : List String := if o.manifest then [manifestName] else []

def outputs (o : Options) (files : List (String × String)) : List String := files.map (·.1) ++ o.lastOutputs

/-- The trees differ in nothing but files under the names, each of which can be written. -/
def Rewritten (o : Options) (names : List String) (t t' : Tree) : Prop :=
  ∀ q, t'.get? q = t.get? q ∨
    ∃ n ∈ names, q = o.pathOf n ∧ o.refusal t n = none ∧ t'.get? q ≠ some .directory

theorem get?_of_refusal_eq_none (h : o.refusal t name = none) : t.get? (o.pathOf name) ≠ some .directory := by
  intro hthere
  have hdirectory : t.isDirectory (o.directory.parts ++ [name]) = true := beq_iff_eq.2 hthere
  rw [refusal, Place.refusalIn, Place.refusal?, hdirectory] at h
  split at h
  · split at h
    · cases h
    · split at h
      · cases h
      · cases h
  · split at h
    · cases h
    · cases h

theorem Rewritten.refusal (h : o.Rewritten names t t') (hlasting : Lasting names) (hname : name ∈ names) :
    o.refusal t' name = o.refusal t name := by
  have hmark : Place.freeMark t' o.directory.parts name = Place.freeMark t o.directory.parts name := by
    apply Tree.freeMark_congr
    intro k
    rcases h (o.pathOf (Place.temporaryName name k)) with hsame | ⟨n, hn, hpath, -⟩
    · exact hsame
    · exact absurd (pathOf_inj.1 hpath).symm (hlasting n hn name hname k)
  have hthere : t'.isDirectory (o.pathOf name) = t.isDirectory (o.pathOf name) := by
    rw [Tree.isDirectory, Tree.isDirectory]
    rcases h (o.pathOf name) with hsame | ⟨n, -, hpath, hnone, hne⟩
    · rw [hsame]
    · rw [← pathOf_inj.1 hpath] at hnone
      rw [beq_false_of_ne hne, beq_false_of_ne (get?_of_refusal_eq_none hnone)]
  change Place.refusal? _ _ _ _ (t'.isDirectory (o.pathOf name)) = _
  rw [hmark, hthere]
  rfl

namespace Rewritten

theorem refl (o : Options) (names : List String) (t : Tree) : o.Rewritten names t t := fun _ => .inl rfl

theorem mono (h : o.Rewritten names t t') (hsub : names ⊆ more) : o.Rewritten more t t' := by
  intro q
  refine (h q).imp_right ?_
  rintro ⟨n, hn, hq⟩
  exact ⟨n, hsub hn, hq⟩

theorem trans (h : o.Rewritten names t t₁) (h' : o.Rewritten names t₁ t₂) (hlasting : Lasting names) :
    o.Rewritten names t t₂ := by
  intro q
  rcases h' q with hsame | ⟨n, hn, hpath, hnone, hne⟩
  · rw [hsame]
    exact h q
  · exact .inr ⟨n, hn, hpath, (h.refusal hlasting hn).symm.trans hnone, hne⟩

theorem get?_eq (h : o.Rewritten names t t') {q : FilePath} (hq : ∀ n ∈ names, q ≠ o.pathOf n) :
    t'.get? q = t.get? q := by
  rcases h q with hsame | ⟨n, hn, hpath, -⟩
  · exact hsame
  · exact absurd hpath (hq n hn)

theorem ready (h : o.Rewritten names t t') (hready : o.Ready place t) : o.Ready place t' := by
  refine ⟨hready.absolute, hready.stands.congr ?_⟩
  intro q hq
  apply h.get?_eq
  rintro n - rfl
  have hlength := hq.length_le
  rw [pathOf, List.length_append, List.length_singleton] at hlength
  omega

theorem of_placed {v : α} (h : Place.Placed t (o.pathOf name) content v (Place.endOf v (o.refusal t name)) t') :
    o.Rewritten [name] t t' := by
  intro q
  by_cases hq : q = o.pathOf name
  · cases hrefusal : o.refusal t name with
    | none =>
      rw [hrefusal] at h
      refine .inr ⟨name, List.mem_cons_self, hq, hrefusal, ?_⟩
      rw [hq, h.get?_of_ok]
      intro hfile
      cases hfile
    | some e =>
      rw [hrefusal] at h
      cases h with
      | refused he hsame => exact .inl (hsame q)
  · exact .inl (h.get?_of_ne hq)

theorem placed {v : α} (h : o.Rewritten (name :: names) t t') (hlasting : Lasting (name :: names))
    (hplaced : Place.Placed t (o.pathOf name) content v (Place.endOf v (o.refusal t name)) t₁)
    (hplaced' : Place.Placed t' (o.pathOf name) content v (Place.endOf v (o.refusal t name)) t₁') :
    o.Rewritten names t₁ t₁' := by
  have hone := (of_placed hplaced).mono (List.cons_subset_cons name (List.nil_subset names))
  intro q
  by_cases hq : q = o.pathOf name
  · cases hrefusal : o.refusal t name with
    | none =>
      rw [hrefusal] at hplaced hplaced'
      rw [hq, hplaced.get?_of_ok, hplaced'.get?_of_ok]
      exact .inl rfl
    | some e =>
      rw [hrefusal] at hplaced hplaced'
      cases hplaced with
      | refused he hsame =>
        cases hplaced' with
        | refused he' hsame' =>
          rw [hsame, hsame']
          rcases h q with heq | ⟨n, -, hpath, hnone, -⟩
          · exact .inl heq
          · rw [pathOf_inj.1 (hpath.symm.trans hq), hrefusal] at hnone
            cases hnone
  · rw [hplaced.get?_of_ne hq, hplaced'.get?_of_ne hq]
    rcases h q with heq | ⟨n, hn, hpath, hnone, hne⟩
    · exact .inl heq
    · rcases List.mem_cons.1 hn with rfl | hn
      · exact absurd hpath hq
      · exact .inr ⟨n, hn, hpath, (hone.refusal hlasting (List.mem_cons_of_mem _ hn)).trans hnone, hne⟩

end Rewritten

theorem writeAll_again (hplain : ∀ f ∈ files, IsFileName f.1) (hlasting : Lasting (files.map (·.1) ++ more))
    (hready : o.Ready place t) (h : o.Rewritten (files.map (·.1) ++ more) t t') :
    ∃ found t₁ t₁', Leads (o.writeAll place files) t (.ok found) t₁ ∧
      Leads (o.writeAll place files) t' (.ok found) t₁' ∧
      o.Rewritten (files.map (·.1) ++ more) t t₁ ∧ o.Rewritten more t₁ t₁' := by
  induction files generalizing t t' with
  | nil => exact ⟨([], []), t, t', Ends.pure _, Ends.pure _, .refl o _ t, h⟩
  | cons file rest ih =>
    obtain ⟨name, text⟩ := file
    obtain ⟨hname, hrest⟩ := List.forall_mem_cons.1 hplain
    have hmem : name ∈ name :: (rest.map (·.1) ++ more) := List.mem_cons_self
    have hsame := h.refusal hlasting hmem
    obtain ⟨t₁, hone, hplaced⟩ := writeOne_placed hready hname text
    obtain ⟨t₁', hone', hplaced'⟩ := writeOne_placed (h.ready hready) hname text
    rw [hsame] at hone' hplaced'
    have hfirst : o.Rewritten (name :: (rest.map (·.1) ++ more)) t t₁ :=
      (Rewritten.of_placed hplaced).mono (List.cons_subset_cons name (List.nil_subset _))
    obtain ⟨found, t₂, t₂', hall, hall', hrewritten, hleft⟩ := ih hrest
      (hlasting.mono (List.subset_cons_self name _)) (hfirst.ready hready) (h.placed hlasting hplaced hplaced')
    have hboth := hfirst.trans (hrewritten.mono (List.subset_cons_self name _)) hlasting
    obtain ⟨records, failed⟩ := found
    cases hrefusal : o.refusal t name with
    | none =>
      rw [hrefusal] at hone hone'
      refine ⟨(o.recordOf (name, text) :: records, failed), t₂, t₂', ?_, ?_, hboth, hleft⟩
      · exact hone.attempt.bind (hall.bind (Ends.pure _))
      · exact hone'.attempt.bind (hall'.bind (Ends.pure _))
    | some e =>
      rw [hrefusal] at hone hone' hplaced
      have hgoes {s s₁ s₂ : Tree} (hstep : Leads (o.writeOne place name text) s (.error e) s₁)
          (hgo : Leads (o.writeAll place rest) s₁ (.ok (records, failed)) s₂) :
          Leads (o.writeAll place ((name, text) :: rest)) s (.ok (records, .notWritten name e :: failed)) s₂ := by
        refine hstep.attempt.bind ?_
        dsimp only
        rw [hplaced.isRefusal]
        exact (Leads.report _).bind (hgo.bind (Ends.pure _))
      exact ⟨_, t₂, t₂', hgoes hone hall, hgoes hone' hall', hboth, hleft⟩

theorem writeLast_again (hlasting : Lasting o.lastOutputs) (hready : o.Ready place t)
    (h : o.Rewritten o.lastOutputs t t') (records : List FileRecord) :
    ∃ told t₁ t₁',
      Leads (if o.manifest then o.writeManifest place records else pure []) t (.ok told) t₁ ∧
      Leads (if o.manifest then o.writeManifest place records else pure []) t' (.ok told) t₁' ∧
      o.Rewritten o.lastOutputs t t₁ ∧ o.Rewritten [] t₁ t₁' := by
  rw [lastOutputs] at h hlasting ⊢
  cases hwanted : o.manifest with
  | true =>
    rw [hwanted, if_pos rfl] at h hlasting
    obtain ⟨t₁, hwrite, hplaced⟩ := writeManifest_placed hready records
    obtain ⟨t₁', hwrite', hplaced'⟩ := writeManifest_placed (h.ready hready) records
    rw [h.refusal hlasting List.mem_cons_self] at hwrite' hplaced'
    exact ⟨_, t₁, t₁', hwrite, hwrite', .of_placed hplaced, h.placed hlasting hplaced hplaced'⟩
  | false =>
    rw [hwanted, if_neg Bool.false_ne_true] at h
    exact ⟨[], t, t', Ends.pure _, Ends.pure _, .refl o _ t, h⟩

/-- Where the trees differ in nothing but files that are written, writing comes to the same in both. -/
theorem writeInto_again (hplain : ∀ f ∈ files, IsFileName f.1) (hlasting : Lasting (o.outputs files))
    (hready : o.Ready place t) (h : o.Rewritten (o.outputs files) t t') :
    ∃ r t₁ t₁', Leads (o.writeInto place files) t (.ok r) t₁ ∧
      Leads (o.writeInto place files) t' (.ok r) t₁' ∧ o.Rewritten (o.outputs files) t t₁ ∧
        ∀ q, t₁'.get? q = t₁.get? q := by
  obtain ⟨found, t₁, t₁', hall, hall', hrewritten, hleft⟩ := writeAll_again hplain hlasting hready h
  have hsub : o.lastOutputs ⊆ o.outputs files := List.subset_append_right _ _
  obtain ⟨told, t₂, t₂', hlast, hlast', hwritten, hnone⟩ :=
    writeLast_again (hlasting.mono hsub) (hrewritten.ready hready) hleft found.1
  refine ⟨_, t₂, t₂', leads_writeInto hall hlast, leads_writeInto hall' hlast',
    hrewritten.trans (hwritten.mono hsub) hlasting, ?_⟩
  intro q
  exact hnone.get?_eq (List.forall_mem_nil _)

end Options

/-- What an export may leave of the directories that it found, and of all that is outside its own. -/
structure Leaves (clean : Bool) (dir : FilePath) (t t' : Tree) : Prop where
  kept : ∀ q, t.get? q = some .directory → ¬Swept clean dir q → t'.get? q = some .directory
  grown : ∀ q, t'.get? q = some .directory → t.get? q = some .directory ∨ t.get? q = none ∧ q <+: dir
  outside : ∀ q, ¬Below dir q → t'.get? q = t.get? q ∨ t.get? q = none ∧ t'.get? q = some .directory

/-- On the way to the directory there is a name that is too long, below what is not there. -/
def LongWay (t : Tree) (dir front : FilePath) (c : String) : Prop :=
  front ++ [c] <+: dir ∧ Tree.nameFits c = false ∧ t.get? front = none

namespace Options

theorem Changes.leaves (hchanges : o.Changes t t₁) (hrewritten : o.Rewritten names t₁ t') :
    Leaves o.clean o.directory.parts t t' where
  kept q hq hswept := by
    have hthere : t₁.get? q = some .directory := by
      rcases hchanges q with hsame | ⟨hswept', -⟩ | ⟨hnone, -⟩
      · rw [hsame, hq]
      · exact absurd hswept' hswept
      · rw [hq] at hnone
        cases hnone
    rcases hrewritten q with hsame | ⟨n, -, rfl, hnone, -⟩
    · rw [hsame, hthere]
    · exact absurd hthere (get?_of_refusal_eq_none hnone)
  grown q hq := by
    rcases hrewritten q with hsame | ⟨n, -, -, -, hne⟩
    · rw [hsame] at hq
      rcases hchanges q with hsame | ⟨-, hgone⟩ | ⟨hnone, -, habove⟩
      · exact .inl (hsame.symm.trans hq)
      · rw [hq] at hgone
        cases hgone
      · exact .inr ⟨hnone, habove⟩
    · exact absurd hq hne
  outside q hq := by
    have hsame : t'.get? q = t₁.get? q := by
      apply hrewritten.get?_eq
      rintro n - rfl
      exact hq (Tree.below_concat _ n)
    rw [hsame]
    rcases hchanges q with hsame | ⟨hswept, -⟩ | ⟨hnone, hthere, -⟩
    · exact .inl hsame
    · exact absurd hswept.2.1 hq
    · exact .inr ⟨hnone, hthere⟩

def tooLong (o : Options) (p : FilePath) : Result :=
  { manifest := o.manifestOf [], errors := [.aborted (.refused .nameTooLong (Location.atPath p).text none)] }

/-- What comes of an export that is run again: the same, except that it tells of the whole way to the directory
where it told of the way up to a name that is too long. -/
inductive Repeats (o : Options) (t : Tree) : Result → Result → Prop where
  | same (r : Result) : Repeats o t r r
  | whole {front : FilePath} {c : String} (hway : LongWay t o.directory.parts front c) :
      Repeats o t (o.tooLong (front ++ [c])) (o.tooLong o.directory.parts)

/-- An export that ends well, and what comes of it if it is run again. -/
def Settles (o : Options) (t : Tree) (a : Action Error Result) (r : Result) (t₁ : Tree) : Prop :=
  Leaves o.clean o.directory.parts t t₁ ∧
    ∃ r' t₂, Leads a t₁ (.ok r') t₂ ∧ (∀ q, t₂.get? q = t₁.get? q) ∧ o.Repeats t r r'

theorem settles_unchanged {a : Action Error Result} {r : Result} (h : Leads a t (.ok r) t) : o.Settles t a r t :=
  ⟨(Changes.refl o t).leaves (.refl o [] t), r, t, h, fun _ => rfl, .same r⟩

theorem settles_stuck {e : Error} (h : o.Anchored) (hstuck : Place.Stuck t t₁ o.directory.parts e)
    (hchanges : o.Changes t t₁) (place : Place) (files : List (String × String)) :
    o.Settles t (o.writeTo place files) { manifest := o.manifestOf [], errors := [.aborted e] } t₁ := by
  have hagain := writeTo_of_refused (prepare_stuck h hstuck place) rfl files
  obtain ⟨front, c, rest, hdir, hlong, hnone, rfl⟩ := hstuck.way
  have hunder : front ++ [c] <+: o.directory.parts := by
    rw [hdir, List.append_cons front c rest]
    exact List.prefix_append _ _
  rw [h.absolute] at hagain
  exact ⟨hchanges.leaves (.refl o [] t₁), _, t₁, hagain, fun _ => rfl, .whole ⟨hunder, hlong, hnone⟩⟩

theorem settles_ready (hplain : ∀ f ∈ files, IsFileName f.1) (hlasting : Lasting (o.outputs files))
    (hready : o.Ready place t₁) (hchanges : o.Changes t t₁)
    (hswept : ∀ q, Swept o.clean o.directory.parts q → t₁.get? q = none) :
    ∃ r t₂, Leads (o.writeInto place files) t₁ (.ok r) t₂ ∧ o.Settles t (o.writeTo place files) r t₂ := by
  obtain ⟨r, t₂, -, hinto, -, hrewritten, -⟩ := writeInto_again hplain hlasting hready (.refl o _ t₁)
  obtain ⟨t₃, hprepare, hready', hsame⟩ := (hrewritten.ready hready).prepare_again
  -- What is prepared again differs from what was prepared in files that were written.
  have hagain : o.Rewritten (o.outputs files) t₁ t₃ := by
    intro q
    rw [hsame]
    by_cases hq : Swept o.clean o.directory.parts q
    · rw [if_pos hq, hswept q hq]
      exact .inl rfl
    · rw [if_neg hq]
      exact hrewritten q
  obtain ⟨r', t₂', t₄, hinto', hinto'', -, hend⟩ := writeInto_again hplain hlasting hready hagain
  obtain ⟨hr, rfl⟩ := hinto.unique hinto'
  cases hr
  exact ⟨r, t₂, hinto, hchanges.leaves hrewritten, r, t₄, writeTo_of_prepared hprepare hinto'', hend, .same r⟩

theorem writeTo_settles (h : o.Anchored) (hs : t.Sound) (place : Place) (hplain : ∀ f ∈ files, IsFileName f.1)
    (hlasting : Lasting (o.outputs files)) :
    ∃ e t₁, Leads (o.writeTo place files) t e t₁ ∧ ∀ r, e = .ok r → o.Settles t (o.writeTo place files) r t₁ := by
  obtain ⟨p, t₁, hprepare, hprepared⟩ := prepare_prepared h hs place
  have hfailed {e : Error} (hprepare : Leads (o.prepare place) t (.error e) t₁)
      (hrefused : e.isRefusal = true →
        o.Settles t (o.writeTo place files) { manifest := o.manifestOf [], errors := [.aborted e] } t₁) :
      ∃ e t₁, Leads (o.writeTo place files) t e t₁ ∧
        ∀ r, e = .ok r → o.Settles t (o.writeTo place files) r t₁ := by
    cases he : e.isRefusal with
    | false =>
      refine ⟨_, t₁, writeTo_of_broken hprepare he files, ?_⟩
      intro r hr
      cases hr
    | true =>
      refine ⟨_, t₁, writeTo_of_refused hprepare he files, ?_⟩
      intro r hr
      cases hr
      exact hrefused he
  cases hprepared with
  | unchanged e =>
    apply hfailed hprepare
    intro he
    exact settles_unchanged (writeTo_of_refused hprepare he files)
  | stuck hstuck hchanges => exact hfailed hprepare fun _ => settles_stuck h hstuck hchanges place files
  | ready hready hchanges hswept =>
    obtain ⟨r, t₂, hinto, hsettles⟩ := settles_ready hplain hlasting hready hchanges hswept
    refine ⟨_, t₂, writeTo_of_prepared hprepare hinto, ?_⟩
    intro r' hr
    cases hr
    exact hsettles

end Options

theorem leads_run {r : Except Error Result} (hnull : o.directory.hasNull = false)
    (h : Leads ((o.resolved place).writeTo place files) t r t₁) : Leads (run place o files) t r t₁ := by
  rw [run, hnull, if_neg Bool.false_ne_true]
  refine (Leads.report _).bind ?_
  cases r with
  | ok v => exact (h.timed _).bind ((Leads.report _).bind (Ends.pure v))
  | error e => exact (h.timed _).bind_error _

theorem run_written (hnull : o.directory.hasNull = false) (hplain : ∀ f ∈ files, IsFileName f.1)
    (hlasting : Lasting (o.outputs files)) (hprepare : Leads ((o.resolved place).prepare place) t (.ok ()) t₁) :
    ∃ r t₂, Leads (run place o files) t (.ok r) t₂ ∧ (o.resolved place).Ready place t₂ := by
  obtain ⟨log, hprepared⟩ := hprepare []
  have hready := Options.ready_of_prepare hprepared
  have hall : Lasting ((o.resolved place).outputs files) := hlasting
  obtain ⟨r, t₂, -, hinto, -, hrewritten, -⟩ :=
    Options.writeInto_again hplain hall hready (Options.Rewritten.refl (o.resolved place) _ t₁)
  exact ⟨r, t₂, leads_run hnull (Options.writeTo_of_prepared hprepare hinto), hrewritten.ready hready⟩

/-- An export that is run again leaves the tree as it is and comes to the same result, except for the text of
the error where the way to the directory has too long a name. -/
theorem run_settles (o : Options) (place : Place) (hs : t.Sound) (hplain : ∀ f ∈ files, IsFileName f.1)
    (hlasting : Lasting (o.outputs files)) :
    ∃ e t₁, Leads (run place o files) t e t₁ ∧
      ∀ r, e = .ok r → (o.resolved place).Settles t (run place o files) r t₁ := by
  cases hnull : o.directory.hasNull with
  | true =>
    refine ⟨.error .nullByte, t, ?_, ?_⟩
    · rw [run, hnull, if_pos rfl]
      exact (Ends.throw _).bind_error _
    · intro r hr
      cases hr
  | false =>
    obtain ⟨e, t₁, hwrite, hsettles⟩ :=
      Options.writeTo_settles (o.anchored_resolved place) hs place hplain hlasting
    refine ⟨e, t₁, leads_run hnull hwrite, ?_⟩
    intro r hr
    obtain ⟨hleaves, r', t₂, hagain, hsame, hrepeats⟩ := hsettles r hr
    exact ⟨hleaves, r', t₂, leads_run hnull hagain, hsame, hrepeats⟩

end RpcBindings.Export
