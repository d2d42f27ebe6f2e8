import RpcBindings.Document.Schema
import RpcBindings.Proofs.Config
import Mathlib.Data.List.Forall2

namespace RpcBindings

open RpcBindings.Data

namespace Schema

/-- The value is the text; bytes are the text that they encode. -/
inductive IsText : Value → String → Prop where
  | text (s : String) : IsText (.text s) s
  | bytes {b : List UInt8} {s : String} (h : Text.Utf8.decode ⟨b.toArray⟩ = .ok s) : IsText (.bytes b) s

structure IsName (v : Value) (s : String) : Prop where
  text : IsText v s
  ne_empty : s ≠ ""

/-- A truth value may also be written as a number or as a word. -/
inductive IsBool : Value → Bool → Prop where
  | bool (b : Bool) : IsBool (.bool b) b
  | int (b : Bool) : IsBool (.int (if b then 1 else 0)) b
  | float {x : Number.Binary64} {b : Bool} (h : x.toInt? = some (if b then 1 else 0)) : IsBool (.float x) b
  | word {v : Value} {s : String} {b : Bool} (hs : IsText v s) (h : readBool s = some b) : IsBool v b

inductive IsList : Value → List Value → Prop where
  | list (vs : List Value) : IsList (.list vs) vs
  | set (vs : List Value) : IsList (.set vs) vs

def Each (P : Value → α → Prop) (v : Value) (parts : List α) : Prop :=
  ∃ vs, IsList v vs ∧ List.Forall₂ P vs parts

def Given (P : Value → α → Prop) (name : String) (entries : List (Value × Value)) (a : α) : Prop :=
  ∃ v, field? name entries = some v ∧ P v a

/-- The part is under the key, or there is no such key and the part is the default. -/
def Perhaps (P : Value → α → Prop) (name : String) (default : α) (entries : List (Value × Value)) (a : α) : Prop :=
  field? name entries = none ∧ a = default ∨ Given P name entries a

/-- The part is null or there. -/
inductive OrNull (P : Value → α → Prop) : Value → Option α → Prop where
  | null : OrNull P .null none
  | some {v : Value} {a : α} (hv : v ≠ .null) (h : P v a) : OrNull P v (some a)

def Closed (names : List String) (entries : List (Value × Value)) : Prop :=
  ∀ e ∈ entries, ∃ s ∈ names, e.1 = .text s

def Mapping (P : List (Value × Value) → α → Prop) (v : Value) (a : α) : Prop :=
  ∃ entries, v = .map entries ∧ P entries a

/-- The check passes the values of the relation and no others. -/
def Decides (check : Value → Check α) (P : Value → α → Prop) : Prop := ∀ v a, check v = .pass a ↔ P v a

variable {check : Value → Check α} {P : Value → α → Prop} {entries : List (Value × Value)} {name : String} {a : α}

theorem Check.under_eq_pass {c : Check α} {item : String} : c.under item = .pass a ↔ c = .pass a := by
  cases c <;> simp [under]

theorem decides_text : Decides text IsText := by
  intro v s
  constructor
  · intro h
    cases v with
    | text t =>
      cases h
      exact .text s
    | bytes b =>
      rw [text] at h
      split at h
      · rename_i t ht
        cases h
        exact .bytes ht
      · cases h
    | _ => cases h
  · intro h
    cases h with
    | text => rfl
    | bytes h => rw [text, h]

theorem text?_eq_some {v : Value} {s : String} : text? v = some s ↔ IsText v s := by
  rw [← decides_text, text?]
  cases text v <;> simp

theorem decides_nonEmptyText : Decides nonEmptyText IsName := by
  intro v s
  rw [nonEmptyText_eq_pass, decides_text v s]
  constructor
  · rintro ⟨ht, hne⟩
    exact ⟨ht, hne⟩
  · rintro ⟨ht, hne⟩
    exact ⟨ht, hne⟩

theorem readBool_eq_some {v : Value} {b : Bool} :
    (text? v).bind readBool = some b ↔ ∃ s, IsText v s ∧ readBool s = some b := by
  simp only [Option.bind_eq_some_iff, text?_eq_some]

theorem isBool_of_pass {v : Value} {b : Bool} (h : bool v = .pass b) : IsBool v b := by
  cases v with
  | bool c =>
    cases h
    exact .bool b
  | int n =>
    rw [bool] at h
    split at h
    · cases h
      subst n
      exact .int false
    · split at h
      · cases h
        subst n
        exact .int true
      · split at h <;> cases h
  | float x =>
    rw [bool] at h
    split at h
    · rename_i hx
      cases h
      exact .float hx
    · split at h
      · rename_i hx
        cases h
        exact .float hx
      · cases h
  | text s | bytes s =>
    simp only [bool] at h
    split at h
    · rename_i hread
      cases h
      obtain ⟨t, ht, hb⟩ := readBool_eq_some.1 hread
      exact .word ht hb
    · cases h
  | _ => cases h

theorem pass_of_isBool {v : Value} {b : Bool} (h : IsBool v b) : bool v = .pass b := by
  cases h with
  | bool => rfl
  | int => cases b <;> rfl
  | float hx =>
    rw [bool, hx]
    cases b <;> rfl
  | word hs hb =>
    have hread := readBool_eq_some.2 ⟨_, hs, hb⟩
    cases hs with
    | text => simp only [bool, hread]
    | bytes h => simp only [bool, hread]

theorem decides_bool : Decides bool IsBool := fun _ _ => ⟨isBool_of_pass, pass_of_isBool⟩

theorem Decides.required (h : Decides check P) :
    required name check entries = .pass a ↔ Given P name entries a := by
  rw [Schema.required, Check.under_eq_pass, Given]
  cases field? name entries with
  | none =>
    constructor
    · intro h
      cases h
    · rintro ⟨v, hv, -⟩
      cases hv
  | some v => simp [h v a]

theorem Decides.optional (h : Decides check P) {default : α} :
    optional name default check entries = .pass a ↔ Perhaps P name default entries a := by
  rw [Schema.optional, Perhaps, Given]
  cases field? name entries with
  | none =>
    simp only [Check.pass.injEq, true_and, reduceCtorEq, false_and, exists_false, or_false]
    exact eq_comm
  | some v => simp [Check.under_eq_pass, h v a]

theorem Decides.items (h : Decides check P) {index : Nat} {vs : List Value} {parts : List α} :
    items check index vs = .pass parts ↔ List.Forall₂ P vs parts := by
  induction vs generalizing index parts with
  | nil =>
    rw [Schema.items, List.forall₂_nil_left_iff, Check.pass.injEq, eq_comm]
  | cons v rest ih =>
    rw [Schema.items, Check.map_eq_pass, List.forall₂_cons_left_iff]
    simp only [Check.and_eq_pass, Check.under_eq_pass, ih, h v, Prod.exists]
    constructor
    · rintro ⟨a, as, ⟨ha, has⟩, rfl⟩
      exact ⟨a, as, ha, has, rfl⟩
    · rintro ⟨a, as, ha, has, rfl⟩
      exact ⟨a, as, ⟨ha, has⟩, rfl⟩

theorem Decides.list (h : Decides check P) : Decides (list check) (Each P) := by
  intro v parts
  constructor
  · intro hlist
    cases v with
    | list vs => exact ⟨vs, .list vs, h.items.1 hlist⟩
    | set vs => exact ⟨vs, .set vs, h.items.1 hlist⟩
    | _ => cases hlist
  · rintro ⟨vs, hvs, hparts⟩
    cases hvs with
    | list => exact h.items.2 hparts
    | set => exact h.items.2 hparts

theorem closed_eq_pass {names : List String} : closed names entries = .pass () ↔ Closed names entries := by
  induction entries with
  | nil => exact ⟨fun _ => nofun, fun _ => rfl⟩
  | cons e rest ih =>
    obtain ⟨k, v⟩ := e
    have hunit : (∃ u, closed names rest = .pass u) ↔ closed names rest = .pass () :=
      ⟨fun ⟨_, h⟩ => h, fun h => ⟨(), h⟩⟩
    rw [Closed, List.forall_mem_cons, ← Closed, ← ih]
    cases k with
    | text s =>
      by_cases hs : s ∈ names
      · simp [closed, Check.map_eq_pass, Check.and_eq_pass, hs, hunit]
      · simp [closed, Check.map_eq_pass, Check.and_eq_pass, hs, Check.complain, Check.under]
    | _ => simp [closed, Check.map_eq_pass, Check.and_eq_pass, Check.complain, Check.under]

theorem record_eq_pass {model : String} {names : List String} {part : List (Value × Value) → Check α} {v : Value} :
    record model names part v = .pass a ↔
      ∃ entries, v = .map entries ∧ Closed names entries ∧ part entries = .pass a := by
  cases v with
  | map entries =>
    rw [record, Check.map_eq_pass]
    simp only [Check.and_eq_pass, Prod.exists, Value.map.injEq]
    constructor
    · rintro ⟨b, u, ⟨hpart, hclosed⟩, rfl⟩
      exact ⟨entries, rfl, closed_eq_pass.1 hclosed, hpart⟩
    · rintro ⟨_, rfl, hclosed, hpart⟩
      exact ⟨a, (), ⟨hpart, closed_eq_pass.2 hclosed⟩, rfl⟩
  | _ => simp [record, Check.complain]

end Schema

open RpcBindings.Schema

namespace Document

def IsFieldKind (v : Value) (k : FieldKind) : Prop := ∃ s, IsText v s ∧ fieldKinds.lookup s = some k

def IsMethodKind (v : Value) (k : MethodKind) : Prop := ∃ s, v = .text s ∧ methodKinds.lookup s = some k

structure IsField (entries : List (Value × Value)) (f : FieldDecl) : Prop where
  closed : Closed ["name", "kind", "type", "repeated"] entries
  name : Given IsName "name" entries f.name
  kind : Perhaps (OrNull IsFieldKind) "kind" none entries f.kind
  type : Perhaps (OrNull IsText) "type" none entries f.type
  repeated : Perhaps IsBool "repeated" false entries f.repeated

/-- The values are message declarations, at every depth. -/
inductive IsMessages : List Value → Messages → Prop where
  | nil : IsMessages [] .nil
  | cons {entries : List (Value × Value)} {name : String} {fields : List FieldDecl} {inner vs : List Value}
      {nested rest : Messages} (hclosed : Closed ["name", "fields", "messages"] entries)
      (hname : Given IsName "name" entries name) (hfields : Perhaps (Each (Mapping IsField)) "fields" [] entries fields)
      (hinner : Perhaps IsList "messages" [] entries inner) (hnested : IsMessages inner nested)
      (hrest : IsMessages vs rest) : IsMessages (.map entries :: vs) (.cons name fields nested rest)

structure IsMethod (entries : List (Value × Value)) (m : MethodDecl) : Prop where
  closed : Closed ["name", "input", "output", "kind"] entries
  name : Given IsName "name" entries m.name
  input : Given IsName "input" entries m.input
  output : Given IsName "output" entries m.output
  kind : Perhaps IsMethodKind "kind" .unary entries m.kind

structure IsService (entries : List (Value × Value)) (s : ServiceDecl) : Prop where
  closed : Closed ["name", "methods"] entries
  name : Given IsName "name" entries s.name
  methods : Perhaps (Each (Mapping IsMethod)) "methods" [] entries s.methods

structure IsFile (entries : List (Value × Value)) (f : FileDecl) : Prop where
  closed : Closed ["name", "package", "messages", "services"] entries
  name : Given IsName "name" entries f.name
  package : Perhaps IsText "package" "" entries f.package
  messages : ∃ vs, Perhaps IsList "messages" [] entries vs ∧ IsMessages vs f.messages
  services : Perhaps (Each (Mapping IsService)) "services" [] entries f.services

/-- The keys are texts; of several values of a key the last one counts. -/
def IsConfig (entries : List (Value × Value)) (config : Overrides) : Prop :=
  ∃ given, List.Forall₂ (fun (e : Value × Value) (g : String × Value) => IsText e.1 g.1 ∧ g.2 = e.2) entries given ∧
    config = given.foldl (fun acc (name, v) => Config.assign name v acc) []

structure IsDocument (entries : List (Value × Value)) (d : Document) : Prop where
  closed : Closed ["files", "files_to_generate", "config"] entries
  files : Perhaps (Each (Mapping IsFile)) "files" [] entries d.files
  filesToGenerate : Perhaps (Each IsText) "files_to_generate" [] entries d.filesToGenerate
  config : Perhaps (Mapping IsConfig) "config" [] entries d.config

/-- The value is the document: it has no unknown key at any depth, and every part is what it has to be. -/
def Describes (v : Value) (d : Document) : Prop := Mapping IsDocument v d

theorem decides_fieldKind : Decides checkFieldKind IsFieldKind := by
  intro v k
  rw [checkFieldKind, IsFieldKind]
  constructor
  · intro h
    split at h
    · rename_i l hl
      cases h
      obtain ⟨s, hs, hk⟩ := Option.bind_eq_some_iff.1 hl
      exact ⟨s, text?_eq_some.1 hs, hk⟩
    · cases h
  · rintro ⟨s, hs, hk⟩
    rw [text?_eq_some.2 hs, Option.bind_some, hk]

theorem decides_methodKind : Decides checkMethodKind IsMethodKind := by
  intro v k
  cases v with
  | text s =>
    simp only [checkMethodKind, IsMethodKind, Value.text.injEq, exists_eq_left']
    cases methodKinds.lookup s <;> simp [Check.complain]
  | _ => simp [checkMethodKind, IsMethodKind, Check.complain]

theorem decides_orNull {check : Value → Check α} {P : Value → α → Prop} (h : Decides check P) :
    Decides (orNull check) (OrNull P) := by
  intro v o
  constructor
  · intro hv
    by_cases hnull : v = .null
    · subst hnull
      cases hv
      exact .null
    · rw [orNull] at hv
      · obtain ⟨a, ha, rfl⟩ := Check.map_eq_pass.1 hv
        exact .some hnull ((h v a).1 ha)
      · exact hnull
  · intro hv
    cases hv with
    | null => rfl
    | some hnull ha =>
      rw [orNull]
      · exact Check.map_eq_pass.2 ⟨_, (h v _).2 ha, rfl⟩
      · exact hnull

theorem decides_field : Decides checkField (Mapping IsField) := by
  intro v f
  rw [checkField, record_eq_pass]
  simp only [Check.map_eq_pass, Check.and_eq_pass, Prod.exists, decides_nonEmptyText.required, decides_bool.optional,
    (decides_orNull decides_fieldKind).optional, (decides_orNull decides_text).optional]
  constructor
  · rintro ⟨entries, rfl, hclosed, name, kind, type, repeated, ⟨hname, hkind, htype, hrepeated⟩, rfl⟩
    exact ⟨entries, rfl, hclosed, hname, hkind, htype, hrepeated⟩
  · rintro ⟨entries, rfl, h⟩
    exact ⟨entries, rfl, h.closed, _, _, _, _, ⟨h.name, h.kind, h.type, h.repeated⟩, rfl⟩

theorem decides_method : Decides checkMethod (Mapping IsMethod) := by
  intro v m
  rw [checkMethod, record_eq_pass]
  simp only [Check.map_eq_pass, Check.and_eq_pass, Prod.exists, decides_nonEmptyText.required,
    decides_methodKind.optional]
  constructor
  · rintro ⟨entries, rfl, hclosed, name, input, output, kind, ⟨hname, hinput, houtput, hkind⟩, rfl⟩
    exact ⟨entries, rfl, hclosed, hname, hinput, houtput, hkind⟩
  · rintro ⟨entries, rfl, h⟩
    exact ⟨entries, rfl, h.closed, _, _, _, _, ⟨h.name, h.input, h.output, h.kind⟩, rfl⟩

theorem decides_service : Decides checkService (Mapping IsService) := by
  intro v s
  rw [checkService, record_eq_pass]
  simp only [Check.map_eq_pass, Check.and_eq_pass, Prod.exists, decides_nonEmptyText.required,
    decides_method.list.optional]
  constructor
  · rintro ⟨entries, rfl, hclosed, name, methods, ⟨hname, hmethods⟩, rfl⟩
    exact ⟨entries, rfl, hclosed, hname, hmethods⟩
  · rintro ⟨entries, rfl, h⟩
    exact ⟨entries, rfl, h.closed, _, _, ⟨h.name, h.methods⟩, rfl⟩

theorem checkNested_eq (entries : List (Value × Value)) :
    checkNested entries = optional "messages" .nil checkMessages entries := by
  induction entries with
  | nil => rfl
  | cons e rest ih =>
    obtain ⟨k, v⟩ := e
    rw [checkNested, Schema.optional, field?]
    split
    · rfl
    · rw [ih]
      rfl

theorem checkMessages_eq_pass {v : Value} {ms : Messages} :
    checkMessages v = .pass ms ↔ ∃ vs, IsList v vs ∧ checkEach 0 vs = .pass ms := by
  constructor
  · intro h
    cases v with
    | list vs => exact ⟨vs, .list vs, h⟩
    | set vs => exact ⟨vs, .set vs, h⟩
    | _ => cases h
  · rintro ⟨vs, hvs, h⟩
    cases hvs with
    | list => exact h
    | set => exact h

theorem optional_checkMessages {entries : List (Value × Value)} {ms : Messages} :
    optional "messages" .nil checkMessages entries = .pass ms ↔
      ∃ vs, Perhaps IsList "messages" [] entries vs ∧ checkEach 0 vs = .pass ms := by
  have hdecides : Decides checkMessages fun v ms => ∃ vs, IsList v vs ∧ checkEach 0 vs = .pass ms :=
    fun v ms => checkMessages_eq_pass
  rw [hdecides.optional]
  constructor
  · rintro (⟨hnone, rfl⟩ | ⟨v, hv, vs, hvs, h⟩)
    · exact ⟨[], .inl ⟨hnone, rfl⟩, rfl⟩
    · exact ⟨vs, .inr ⟨v, hv, hvs⟩, h⟩
  · rintro ⟨vs, ⟨hnone, rfl⟩ | ⟨v, hv, hvs⟩, h⟩
    · cases h
      exact .inl ⟨hnone, rfl⟩
    · exact .inr ⟨v, hv, vs, hvs, h⟩

theorem checkMessage_eq_pass {v : Value} {name : String} {fields : List FieldDecl} {nested : Messages} :
    checkMessage v = .pass (name, fields, nested) ↔
      ∃ entries inner, v = .map entries ∧ Closed ["name", "fields", "messages"] entries ∧
        Given IsName "name" entries name ∧ Perhaps (Each (Mapping IsField)) "fields" [] entries fields ∧
        Perhaps IsList "messages" [] entries inner ∧ checkEach 0 inner = .pass nested := by
  cases v with
  | map entries =>
    rw [checkMessage, checkParts, checkNested_eq, Check.map_eq_pass]
    simp only [Check.and_eq_pass, Prod.exists, decides_nonEmptyText.required, decides_field.list.optional,
      optional_checkMessages, Value.map.injEq]
    constructor
    · rintro ⟨_, _, _, u, ⟨⟨hname, hfields, inner, hinner, hnested⟩, hclosed⟩, heq⟩
      cases heq
      exact ⟨entries, inner, rfl, closed_eq_pass.1 hclosed, hname, hfields, hinner, hnested⟩
    · rintro ⟨_, inner, rfl, hclosed, hname, hfields, hinner, hnested⟩
      exact ⟨_, _, _, (), ⟨⟨hname, hfields, inner, hinner, hnested⟩, closed_eq_pass.2 hclosed⟩, rfl⟩
  | _ => simp [checkMessage, Check.complain]

theorem checkEach_eq_pass {index : Nat} {vs : List Value} {ms : Messages} :
    checkEach index vs = .pass ms ↔ IsMessages vs ms := by
  constructor
  · intro h
    induction ms generalizing index vs with
    | nil =>
      cases vs with
      | nil => exact .nil
      | cons v rest =>
        obtain ⟨⟨⟨name, fields, nested⟩, more⟩, -, heq⟩ := Check.map_eq_pass.1 h
        cases heq
    | cons name fields nested rest ihnested ihrest =>
      cases vs with
      | nil => cases h
      | cons v vs =>
        obtain ⟨⟨⟨_, _, _⟩, _⟩, hand, heq⟩ := Check.map_eq_pass.1 h
        cases heq
        obtain ⟨hv, hrest⟩ := Check.and_eq_pass.1 hand
        obtain ⟨entries, inner, rfl, hclosed, hname, hfields, hinner, hnested⟩ :=
          checkMessage_eq_pass.1 (Check.under_eq_pass.1 hv)
        exact .cons hclosed hname hfields hinner (ihnested hnested) (ihrest hrest)
  · intro h
    induction h generalizing index with
    | nil => rfl
    | @cons entries name fields inner vs nested rest hclosed hname hfields hinner _ _ ihnested ihrest =>
      rw [checkEach, Check.map_eq_pass]
      refine ⟨((name, fields, nested), rest), Check.and_eq_pass.2 ⟨Check.under_eq_pass.2 ?_, ihrest⟩, rfl⟩
      exact checkMessage_eq_pass.2 ⟨entries, inner, rfl, hclosed, hname, hfields, hinner, ihnested⟩

theorem decides_file : Decides checkFile (Mapping IsFile) := by
  intro v f
  rw [checkFile, record_eq_pass]
  simp only [Check.map_eq_pass, Check.and_eq_pass, Prod.exists, decides_nonEmptyText.required, decides_text.optional,
    optional_checkMessages, checkEach_eq_pass, decides_service.list.optional]
  constructor
  · rintro ⟨entries, rfl, hclosed, name, package, messages, services, ⟨hname, hpackage, hmessages, hservices⟩, rfl⟩
    exact ⟨entries, rfl, hclosed, hname, hpackage, hmessages, hservices⟩
  · rintro ⟨entries, rfl, h⟩
    exact ⟨entries, rfl, h.closed, _, _, _, _, ⟨h.name, h.package, h.messages, h.services⟩, rfl⟩

theorem checkSettings_eq_pass {entries : List (Value × Value)} {given : List (String × Value)} :
    checkSettings entries = .pass given ↔
      List.Forall₂ (fun (e : Value × Value) (g : String × Value) => IsText e.1 g.1 ∧ g.2 = e.2) entries given := by
  induction entries generalizing given with
  | nil => rw [checkSettings, List.forall₂_nil_left_iff, Check.pass.injEq, eq_comm]
  | cons e rest ih =>
    obtain ⟨k, v⟩ := e
    rw [checkSettings, Check.map_eq_pass, List.forall₂_cons_left_iff]
    simp only [Check.and_eq_pass, Check.under_eq_pass, ih, decides_text k, Prod.exists]
    constructor
    · rintro ⟨name, more, ⟨hname, hmore⟩, rfl⟩
      exact ⟨name, v, more, ⟨hname, rfl⟩, hmore, rfl⟩
    · rintro ⟨name, w, more, ⟨hname, rfl⟩, hmore, rfl⟩
      exact ⟨name, more, ⟨hname, hmore⟩, rfl⟩

theorem decides_config : Decides checkConfig (Mapping IsConfig) := by
  intro v config
  cases v with
  | map entries =>
    rw [checkConfig, Check.map_eq_pass]
    simp only [Mapping, IsConfig, Value.map.injEq, exists_eq_left', checkSettings_eq_pass, eq_comm (a := config)]
  | _ => simp [checkConfig, Check.complain, Mapping]

/-- A value passes as a document exactly if it is that document. -/
theorem decides_describes : Decides check Describes := by
  intro v d
  rw [check, record_eq_pass]
  simp only [Check.map_eq_pass, Check.and_eq_pass, Prod.exists, decides_file.list.optional,
    decides_text.list.optional, decides_config.optional]
  constructor
  · rintro ⟨entries, rfl, hclosed, files, filesToGenerate, config, ⟨hfiles, hnames, hconfig⟩, rfl⟩
    exact ⟨entries, rfl, hclosed, hfiles, hnames, hconfig⟩
  · rintro ⟨entries, rfl, h⟩
    exact ⟨entries, rfl, h.closed, _, _, _, ⟨h.files, h.filesToGenerate, h.config⟩, rfl⟩

end Document

end RpcBindings
