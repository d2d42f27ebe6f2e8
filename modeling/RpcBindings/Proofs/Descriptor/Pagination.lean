import Mathlib.Logic.Relation
import RpcBindings.Proofs.Descriptor.Loaded

namespace RpcBindings

def Message.HasPaginationKey (m : Message) : Prop := ∃ f ∈ m.fields, Text.lower f.name ∈ paginationKeys

theorem Field.isPaginationKey_iff {f : Field} :
    f.isPaginationKey = true ↔ Text.lower f.name ∈ paginationKeys := List.contains_iff_mem

theorem Field.step?_eq_some {f : Field} {n : String} :
    f.step? = some n ↔ f.kind = .message ∧ ∃ t, f.target = some t ∧ t.typeName = n := by
  rw [Field.step?]
  split <;> simp_all

namespace DescriptorSet

/-- A field of kind message in `m` has the message `n` as its target. -/
def Leads (s : DescriptorSet) (m n : Message) : Prop :=
  ∃ f ∈ m.fields, f.kind = .message ∧ ∃ t, f.target = some t ∧ s.find? t.typeName = some n

/-- A path leads from one message to another, and no type name on it is to be avoided. -/
inductive Reaches (s : DescriptorSet) (avoided : List String) : Message → Message → Prop where
  | start {m : Message} (hm : m.typeName ∉ avoided) : Reaches s avoided m m
  | step {m n k : Message} (hm : m.typeName ∉ avoided) (hl : s.Leads m n)
      (hr : Reaches s avoided n k) : Reaches s avoided m k

variable {s : DescriptorSet} {m n k : Message} {visited avoided avoided' : List String}
  {pending : List Field}

theorem Reaches.mono (h : s.Reaches avoided m n) (hs : avoided' ⊆ avoided) : s.Reaches avoided' m n := by
  induction h with
  | start hm => exact .start fun h => hm (hs h)
  | step hm hl _ ih => exact .step (fun h => hm (hs h)) hl ih

theorem Reaches.not_mem (h : s.Reaches avoided m n) : m.typeName ∉ avoided := by
  cases h with
  | start hm => exact hm
  | step hm => exact hm

theorem reaches_nil : s.Reaches [] m n ↔ Relation.ReflTransGen s.Leads m n := by
  constructor
  · intro h
    induction h with
    | start => exact .refl
    | step _ hl _ ih => exact ih.head hl
  · intro h
    induction h using Relation.ReflTransGen.head_induction_on with
    | refl => exact .start List.not_mem_nil
    | head hl _ ih => exact .step List.not_mem_nil hl ih

theorem Reaches.eq_of_fields (h : s.Reaches avoided m n) (hm : m.fields = []) : n = m := by
  cases h with
  | start => rfl
  | step _ hl _ =>
    obtain ⟨f, hf, _⟩ := hl
    rw [hm] at hf
    cases hf

/-- A path that starts with one of the pending fields leads to the message. -/
def Meets (s : DescriptorSet) (avoided : List String) (pending : List Field) (m : Message) : Prop :=
  ∃ f ∈ pending, ∃ t k, f.step? = some t ∧ s.find? t = some k ∧ s.Reaches avoided k m

theorem Meets.mono (h : s.Meets avoided pending m) (hs : avoided' ⊆ avoided) {pending' : List Field}
    (hp : pending ⊆ pending') : s.Meets avoided' pending' m := by
  obtain ⟨f, hf, t, k, hst, hk, hr⟩ := h
  exact ⟨f, hp hf, t, k, hst, hk, hr.mono hs⟩

theorem Meets.cons {f : Field} (h : s.Meets avoided pending m) : s.Meets avoided (f :: pending) m :=
  h.mono (List.Subset.refl _) (List.subset_cons_self ..)

theorem Meets.start {f : Field} {t : String} (ht : f.step? = some t) (hm : s.find? t = some m)
    (hv : t ∉ avoided) : s.Meets avoided (f :: pending) m := by
  have hname := (find?_mem hm).2
  exact ⟨f, List.mem_cons_self, t, m, ht, hm, .start (hname ▸ hv)⟩

theorem leads_of_step {f : Field} {t : String} (hf : f ∈ m.fields) (ht : f.step? = some t)
    (hn : s.find? t = some n) : s.Leads m n := by
  obtain ⟨hk, t, htarget, rfl⟩ := Field.step?_eq_some.1 ht
  exact ⟨f, hf, hk, t, htarget, hn⟩

theorem Meets.reaches (h : s.Meets avoided m.fields n) (hm : m.typeName ∉ avoided) :
    s.Reaches avoided m n := by
  obtain ⟨f, hf, t, k, hst, hk, hr⟩ := h
  exact .step hm (leads_of_step hf hst hk) hr

theorem Meets.enter {f : Field} {t : String} (ht : f.step? = some t) (hv : t ∉ visited)
    (h : s.Meets (t :: visited) (s.fieldsOf t ++ pending) m) : s.Meets visited (f :: pending) m := by
  obtain ⟨g, hg, u, k, hst, hk, hr⟩ := h
  rcases List.mem_append.1 hg with hg | hg
  · obtain ⟨n, hn, hg⟩ := mem_fieldsOf hg
    have hname := (find?_mem hn).2
    refine ⟨f, List.mem_cons_self, t, n, ht, hn, ?_⟩
    exact .step (hname ▸ hv) (leads_of_step hg hst hk) (hr.mono (List.subset_cons_self ..))
  · exact ⟨g, List.mem_cons_of_mem _ hg, u, k, hst, hk, hr.mono (List.subset_cons_self ..)⟩

def Resolved (s : DescriptorSet) (fields : List Field) : Prop :=
  ∀ f ∈ fields, ∀ t, f.step? = some t → ∃ m, s.find? t = some m

theorem Linked.resolved (h : s.Linked) (hm : m ∈ s.messages) : s.Resolved m.fields := by
  intro f hf n hn
  obtain ⟨_, t, ht, rfl⟩ := Field.step?_eq_some.1 hn
  obtain ⟨k, hk, _⟩ := h.targets m hm f hf t ht
  exact ⟨k, hk⟩

theorem Linked.resolved_fieldsOf (h : s.Linked) (t : String) : s.Resolved (s.fieldsOf t) := by
  intro f hf
  obtain ⟨m, hm, hf⟩ := mem_fieldsOf hf
  exact h.resolved (find?_mem hm).1 f hf

theorem Resolved.append {as bs : List Field} (ha : s.Resolved as) (hb : s.Resolved bs) :
    s.Resolved (as ++ bs) :=
  fun f hf => (List.mem_append.1 hf).elim (ha f) (hb f)

theorem Resolved.tail {f : Field} (h : s.Resolved (f :: pending)) : s.Resolved pending :=
  fun g hg => h g (List.mem_cons_of_mem _ hg)

theorem searchFields_subset (s : DescriptorSet) (visited : List String) (pending : List Field) :
    visited ⊆ (s.searchFields visited pending).2 := by
  fun_induction searchFields s visited pending with
  | case1 => exact List.Subset.refl _
  | case2 => exact List.Subset.refl _
  | case3 _ _ _ _ _ ih => exact ih
  | case4 _ _ _ _ _ _ _ ih => exact ih
  | case5 _ _ _ _ _ _ _ ih => exact fun t ht => ih (List.mem_cons_of_mem _ ht)

theorem searchFields_visited (h : s.Linked) (hp : s.Resolved pending) {t : String}
    (ht : t ∈ (s.searchFields visited pending).2) :
    t ∈ visited ∨ ∃ m, s.Meets visited pending m ∧ m.typeName = t := by
  fun_induction searchFields s visited pending with
  | case1 => exact .inl ht
  | case2 => exact .inl ht
  | case3 visited f rest _ _ ih => exact (ih hp.tail ht).imp_right fun ⟨m, hm, heq⟩ => ⟨m, hm.cons, heq⟩
  | case4 visited f rest _ u _ _ ih => exact (ih hp.tail ht).imp_right fun ⟨m, hm, heq⟩ => ⟨m, hm.cons, heq⟩
  | case5 visited f rest _ u hu hv ih =>
    rcases ih ((h.resolved_fieldsOf u).append hp.tail) ht with ht | ⟨m, hm, heq⟩
    · rcases List.mem_cons.1 ht with rfl | ht
      · obtain ⟨n, hn⟩ := hp f List.mem_cons_self t hu
        exact .inr ⟨n, .start hu hn hv, (find?_mem hn).2⟩
      · exact .inl ht
    · exact .inr ⟨m, hm.enter hu hv, heq⟩

theorem searchFields_hit (h : (s.searchFields visited pending).1 = true) :
    (∃ f ∈ pending, f.isPaginationKey = true) ∨ ∃ m, s.Meets visited pending m ∧ m.HasPaginationKey := by
  fun_induction searchFields s visited pending with
  | case1 => cases h
  | case2 visited f rest hf => exact .inl ⟨f, List.mem_cons_self, hf⟩
  | case3 visited f rest _ _ ih =>
    rcases ih h with ⟨g, hg, hk⟩ | ⟨m, hm, hk⟩
    · exact .inl ⟨g, List.mem_cons_of_mem _ hg, hk⟩
    · exact .inr ⟨m, hm.cons, hk⟩
  | case4 visited f rest _ u _ _ ih =>
    rcases ih h with ⟨g, hg, hk⟩ | ⟨m, hm, hk⟩
    · exact .inl ⟨g, List.mem_cons_of_mem _ hg, hk⟩
    · exact .inr ⟨m, hm.cons, hk⟩
  | case5 visited f rest _ u hu hv ih =>
    rcases ih h with ⟨g, hg, hk⟩ | ⟨m, hm, hk⟩
    · rcases List.mem_append.1 hg with hg | hg
      · obtain ⟨n, hn, hg⟩ := mem_fieldsOf hg
        exact .inr ⟨n, .start hu hn hv, g, hg, Field.isPaginationKey_iff.1 hk⟩
      · exact .inl ⟨g, List.mem_cons_of_mem _ hg, hk⟩
    · exact .inr ⟨m, hm.enter hu hv, hk⟩

/-- No field has the name of a paging parameter, and fields of kind message lead to visited names. -/
structure Exhausted (visited : List String) (fields : List Field) : Prop where
  keyless : ∀ f ∈ fields, f.isPaginationKey = false
  steps : ∀ f ∈ fields, ∀ t, f.step? = some t → t ∈ visited

theorem Exhausted.cons {f : Field} (hk : f.isPaginationKey = false)
    (hs : ∀ t, f.step? = some t → t ∈ visited) (h : Exhausted visited pending) :
    Exhausted visited (f :: pending) where
  keyless := List.forall_mem_cons.2 ⟨hk, h.keyless⟩
  steps := List.forall_mem_cons.2 ⟨hs, h.steps⟩

theorem Exhausted.append_iff {as bs : List Field} :
    Exhausted visited (as ++ bs) ↔ Exhausted visited as ∧ Exhausted visited bs := by
  constructor
  · intro h
    exact ⟨⟨fun f hf => h.keyless f (List.mem_append_left _ hf),
      fun f hf => h.steps f (List.mem_append_left _ hf)⟩,
      ⟨fun f hf => h.keyless f (List.mem_append_right _ hf),
      fun f hf => h.steps f (List.mem_append_right _ hf)⟩⟩
  · rintro ⟨ha, hb⟩
    exact ⟨fun f hf => (List.mem_append.1 hf).elim (ha.keyless f) (hb.keyless f),
      fun f hf => (List.mem_append.1 hf).elim (ha.steps f) (hb.steps f)⟩

/-- Without a hit, the pending fields are exhausted and so are those behind every name entered. -/
theorem searchFields_exhausted (h : (s.searchFields visited pending).1 = false) :
    Exhausted (s.searchFields visited pending).2 pending ∧
      ∀ t ∈ (s.searchFields visited pending).2, t ∉ visited →
        Exhausted (s.searchFields visited pending).2 (s.fieldsOf t) := by
  fun_induction searchFields s visited pending with
  | case1 => exact ⟨⟨nofun, nofun⟩, fun t ht hn => absurd ht hn⟩
  | case2 => cases h
  | case3 visited f rest hk hs ih =>
    obtain ⟨hr, he⟩ := ih h
    refine ⟨hr.cons (by simpa using hk) fun t ht => ?_, he⟩
    rw [hs] at ht
    cases ht
  | case4 visited f rest hk u hu hv ih =>
    obtain ⟨hr, he⟩ := ih h
    refine ⟨hr.cons (by simpa using hk) fun t ht => ?_, he⟩
    cases hu.symm.trans ht
    exact searchFields_subset _ _ _ hv
  | case5 visited f rest hk u hu hv ih =>
    obtain ⟨hr, he⟩ := ih h
    -- The fields behind the new name stood before the rest, so in the end both are exhausted.
    obtain ⟨hn, hr⟩ := Exhausted.append_iff.1 hr
    refine ⟨hr.cons (by simpa using hk) fun t ht => ?_, fun t ht htv => ?_⟩
    · cases hu.symm.trans ht
      exact searchFields_subset _ _ _ List.mem_cons_self
    · by_cases htu : t = u
      · subst htu
        exact hn
      · exact he t ht (List.not_mem_cons_of_ne_of_not_mem htu htv)

def Settled (visited : List String) (m : Message) : Prop :=
  m.typeName ∈ visited ∧ Exhausted visited m.fields

/-- Along a path, each message is settled if the first one is and all names entered are exhausted. -/
theorem Settled.of_reaches {found : List String} (hall : ∀ t ∈ found, t ∉ visited →
    ∀ n, s.find? t = some n → Exhausted found n.fields) (hr : s.Reaches visited m k)
    (hm : Settled found m) : Settled found k := by
  -- The induction is on the path; that it avoids the visited names carries it from one step to the next.
  induction hr with
  | start => exact hm
  | step _ hl hr ih =>
    obtain ⟨f, hf, hk, t, ht, hn⟩ := hl
    have hname := (find?_mem hn).2
    have hmem := hm.2.steps f hf _ (Field.step?_eq_some.2 ⟨hk, t, ht, rfl⟩)
    exact ih ⟨hname ▸ hmem, hall _ hmem (hname ▸ hr.not_mem) _ hn⟩

theorem settled_of_reaches (h : s.Linked) (hm : m ∈ s.messages)
    (hs : (s.searchFields (m.typeName :: visited) m.fields).1 = false) (hr : s.Reaches visited m k) :
    Settled (s.searchFields (m.typeName :: visited) m.fields).2 k := by
  obtain ⟨he, hall⟩ := searchFields_exhausted hs
  have hself := searchFields_subset s (m.typeName :: visited) m.fields List.mem_cons_self
  rcases h.latest m hm with hnil | hlatest
  · cases hr.eq_of_fields hnil
    exact ⟨hself, he⟩
  · refine Settled.of_reaches (fun t ht hv n hn => ?_) hr ⟨hself, he⟩
    by_cases heq : t = m.typeName
    · rw [heq, hlatest] at hn
      cases hn
      exact he
    · rw [← fieldsOf_eq hn]
      exact hall t ht (List.not_mem_cons_of_ne_of_not_mem heq hv)

theorem searchFrom_visited (h : s.Linked) (hm : m ∈ s.messages) (visited : List String) :
    visited ⊆ (s.searchFrom m visited).2 ∧ ∀ t ∈ (s.searchFrom m visited).2,
      t ∈ visited ∨ ∃ n, s.Reaches visited m n ∧ n.typeName = t := by
  rw [searchFrom]
  split
  · exact ⟨List.Subset.refl _, fun t ht => .inl ht⟩
  · rename_i hv
    refine ⟨fun t ht => searchFields_subset _ _ _ (List.mem_cons_of_mem _ ht), fun t ht => ?_⟩
    rcases searchFields_visited h (h.resolved hm) ht with ht | ⟨n, hn, heq⟩
    · rcases List.mem_cons.1 ht with rfl | ht
      · exact .inr ⟨m, .start hv, rfl⟩
      · exact .inl ht
    · exact .inr ⟨n, (hn.mono (List.subset_cons_self ..) (List.Subset.refl _)).reaches hv, heq⟩

theorem searchFrom_hit (h : (s.searchFrom m visited).1 = true) :
    ∃ n, s.Reaches visited m n ∧ n.HasPaginationKey := by
  rw [searchFrom] at h
  split at h
  · cases h
  · rename_i hv
    rcases searchFields_hit h with ⟨f, hf, hk⟩ | ⟨n, hn, hk⟩
    · exact ⟨m, .start hv, f, hf, Field.isPaginationKey_iff.1 hk⟩
    · exact ⟨n, (hn.mono (List.subset_cons_self ..) (List.Subset.refl _)).reaches hv, hk⟩

theorem searchFrom_miss (h : s.Linked) (hm : m ∈ s.messages) (hs : (s.searchFrom m visited).1 = false)
    (hr : s.Reaches visited m n) : n.typeName ∈ (s.searchFrom m visited).2 ∧ ¬n.HasPaginationKey := by
  rw [searchFrom, if_neg hr.not_mem] at hs ⊢
  obtain ⟨hmem, he⟩ := settled_of_reaches h hm hs hr
  refine ⟨hmem, ?_⟩
  rintro ⟨f, hf, hk⟩
  exact absurd (Field.isPaginationKey_iff.2 hk) (by simp [he.keyless f hf])

theorem searchFrom_iff (h : s.Linked) (hm : m ∈ s.messages) :
    (s.searchFrom m visited).1 = true ↔ ∃ n, s.Reaches visited m n ∧ n.HasPaginationKey := by
  refine ⟨searchFrom_hit, ?_⟩
  rintro ⟨n, hr, hk⟩
  cases hs : (s.searchFrom m visited).1 with
  | true => rfl
  | false => exact absurd hk (searchFrom_miss h hm hs hr).2

theorem isPaginated_iff (h : s.Linked) (hm : m ∈ s.messages) :
    s.isPaginated m = true ↔ ∃ n, Relation.ReflTransGen s.Leads m n ∧ n.HasPaginationKey := by
  simp only [isPaginated, searchFrom_iff h hm, reaches_nil]

/-- A search over some fields and then others goes on where it found no hit. -/
theorem searchFields_append (s : DescriptorSet) (visited : List String) (as bs : List Field) :
    s.searchFields visited (as ++ bs) =
      if (s.searchFields visited as).1 then s.searchFields visited as
      else s.searchFields (s.searchFields visited as).2 bs := by
  fun_induction searchFields s visited as with
  | case1 => simp
  | case2 visited f rest hk => simp [searchFields, hk]
  | case3 visited f rest hk hs ih => rw [List.cons_append, searchFields, if_neg hk, hs, ih]
  | case4 visited f rest hk u hu hv ih =>
    rw [List.cons_append, searchFields, if_neg hk, hu]
    simp only [if_pos hv, ih]
  | case5 visited f rest hk u hu hv ih =>
    rw [List.cons_append, searchFields, if_neg hk, hu]
    simp only [if_neg hv, ← List.append_assoc, ih]

/-- A field of kind message is followed by a search from its target, and the fields after it are looked
at only if that search has no hit. -/
theorem searchFields_cons {f : Field} {t : String} (hk : f.isPaginationKey = false)
    (ht : f.step? = some t) (hn : s.find? t = some n) (visited : List String) (rest : List Field) :
    s.searchFields visited (f :: rest) =
      if (s.searchFrom n visited).1 then s.searchFrom n visited
      else s.searchFields (s.searchFrom n visited).2 rest := by
  have hname := (find?_mem hn).2
  rw [searchFields, hk, ht, searchFrom, hname]
  by_cases hv : t ∈ visited
  · simp [hv]
  · simp [hv, searchFields_append, fieldsOf_eq hn]

/-- The search from a message finds a paging parameter exactly if one can be reached without the names to
pass over, whatever cycles there are. A miss has visited all that can be reached, and a hit nothing else. -/
theorem searchFrom_correct (h : s.Loaded) (hm : m ∈ s.messages) (visited : List String) :
    ((s.searchFrom m visited).1 = true ↔ ∃ n, s.Reaches visited m n ∧ n.HasPaginationKey) ∧
      (s.isPaginated m = true ↔ ∃ n, Relation.ReflTransGen s.Leads m n ∧ n.HasPaginationKey) ∧
      ((s.searchFrom m visited).1 = false → ∀ t, t ∈ (s.searchFrom m visited).2 ↔
        t ∈ visited ∨ ∃ n, s.Reaches visited m n ∧ n.typeName = t) ∧
      ((s.searchFrom m visited).1 = true → visited ⊆ (s.searchFrom m visited).2 ∧
        ∀ t ∈ (s.searchFrom m visited).2,
          t ∈ visited ∨ ∃ n, s.Reaches visited m n ∧ n.typeName = t) := by
  obtain ⟨hsub, honly⟩ := searchFrom_visited h.linked hm visited
  refine ⟨searchFrom_iff h.linked hm, isPaginated_iff h.linked hm, fun hs t => ⟨honly t, ?_⟩,
    fun _ => ⟨hsub, honly⟩⟩
  rintro (ht | ⟨n, hr, rfl⟩)
  · exact hsub ht
  · exact (searchFrom_miss h.linked hm hs hr).1

/-- Two messages that refer to each other; the second one asks for a page. -/
def cyclic : Document :=
  { files := [
      { name := "list.proto"
        package := "demo"
        messages :=
          .cons "Ask" [{ name := "reply", type := some "Reply" }] .nil
            (.cons "Reply" [{ name := "ask", type := some "Ask" }, { name := "pageSize" }] .nil .nil) }] }

def cyclicAsk : Message :=
  ⟨"demo.Ask", "Ask", "list.proto",
    [⟨"reply", .message, false, some ⟨"demo.Reply", "Reply", "list.proto"⟩⟩]⟩

def cyclicReply : Message :=
  ⟨"demo.Reply", "Reply", "list.proto",
    [⟨"ask", .message, false, some ⟨"demo.Ask", "Ask", "list.proto"⟩⟩, ⟨"pageSize", .scalar, false, none⟩]⟩

def cyclicSet : DescriptorSet := ⟨[⟨"list.proto", "demo", [cyclicAsk, cyclicReply], []⟩], []⟩

theorem searchFrom_correct_cyclic :
    cyclicSet.Loaded ∧ cyclicAsk ∈ cyclicSet.messages ∧ cyclicSet.isPaginated cyclicAsk = true ∧
      (∃ n, Relation.ReflTransGen cyclicSet.Leads cyclicAsk n ∧ n.HasPaginationKey) ∧
      (cyclicSet.searchFrom cyclicAsk ["demo.Reply"]).1 = false ∧
      ¬∃ n, cyclicSet.Reaches ["demo.Reply"] cyclicAsk n ∧ n.HasPaginationKey := by
  have hd : cyclic.descriptors = .ok cyclicSet := by decide +kernel
  have hm : cyclicAsk ∈ cyclicSet.messages := by decide
  have hc := searchFrom_correct (.ofDocument hd) hm
  have hr : cyclicSet.fieldsOf "demo.Reply" = cyclicReply.fields := by decide +kernel
  have hp : cyclicSet.isPaginated cyclicAsk = true := by
    rw [isPaginated, searchFrom, if_neg (by decide), cyclicAsk, searchFields,
      if_neg (by decide +kernel), Field.step?]
    simp only [if_true, Option.map_some]
    rw [if_neg (by decide), hr, cyclicReply, List.append_nil, searchFields, if_neg (by decide +kernel),
      Field.step?]
    simp only [if_true, Option.map_some]
    rw [if_pos (by decide), searchFields, if_pos (by decide +kernel)]
  have hs : (cyclicSet.searchFrom cyclicAsk ["demo.Reply"]).1 = false := by
    rw [searchFrom, if_neg (by decide), cyclicAsk, searchFields, if_neg (by decide +kernel), Field.step?]
    simp only [if_true, Option.map_some]
    rw [if_pos (by decide), searchFields]
  refine ⟨.ofDocument hd, hm, hp, (hc []).2.1.1 hp, hs, fun hr => ?_⟩
  rw [(hc ["demo.Reply"]).1.2 hr] at hs
  cases hs

end DescriptorSet

end RpcBindings
