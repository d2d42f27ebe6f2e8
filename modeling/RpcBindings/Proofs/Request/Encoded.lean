import RpcBindings.Proofs.Request.Resolution
import RpcBindings.Proofs.Wire.Nested

namespace RpcBindings

open RpcBindings.Wire

namespace Wire

theorem text?_toUTF8 (s : String) : text? s.toUTF8.data.toList = some s := by
  have h := Text.Utf8.decode_toUTF8 s
  rw [Text.Utf8.decode] at h
  split at h
  · rename_i t ht
    cases h
    exact ht
  · cases h

variable {shape inner : Shape} {step : α → Wire.Field → Option α} {number n : Nat} {s t content : List UInt8}
  {a b c : α}

/-- The bytes are a well-formed message of the shape, and they are read as the value. -/
def Encodes (shape : Shape) (read : List UInt8 → Option α) (s : List UInt8) (a : α) : Prop :=
  s.length < 2 ^ 31 → shape.isWellFormed s = true ∧ read s = some a

/-- The bytes are well-formed fields of the shape, and reading them takes one value to the other. -/
def Takes (shape : Shape) (step : α → Wire.Field → Option α) (s : List UInt8) (a b : α) : Prop :=
  s.length < 2 ^ 31 → ∃ fs, Written fs s ∧ fs.all shape.admitsField = true ∧ fs.foldlM step a = some b

namespace Takes

theorem nil : Takes shape step [] a a := fun _ => ⟨[], .nil, rfl, rfl⟩

theorem append (h : Takes shape step s a b) (h' : Takes shape step t b c) : Takes shape step (s ++ t) a c := by
  intro hsize
  rw [List.length_append] at hsize
  obtain ⟨fs, hs, hall, hfold⟩ := h (by omega)
  obtain ⟨gs, ht, hall', hfold'⟩ := h' (by omega)
  refine ⟨fs ++ gs, hs.append ht, ?_, ?_⟩
  · rw [List.all_append, hall, hall', Bool.and_self]
  · rw [List.foldlM_append, hfold]
    exact hfold'

theorem varint (hpos : 0 < number) (hlt : number < 2 ^ 29) (hn : n < 2 ^ 64)
    (hstep : step a ⟨number, .varint n⟩ = some b) : Takes shape step (numberField number n) a b := by
  intro _
  refine ⟨_, written_numberField hpos hlt hn, rfl, ?_⟩
  rw [List.foldlM_cons, hstep]
  rfl

theorem bytes (hpos : 0 < number) (hlt : number < 2 ^ 29)
    (hcontent : content.length < 2 ^ 31 → shape.admitsField ⟨number, .bytes content⟩ = true ∧
      step a ⟨number, .bytes content⟩ = some b) :
    Takes shape step (bytesField number content) a b := by
  intro hsize
  have hle := length_bytesField_le number content
  obtain ⟨hadmits, hstep⟩ := hcontent (by omega)
  refine ⟨_, written_bytesField hpos hlt (by omega), ?_, ?_⟩
  · rw [List.all_cons, hadmits]
    rfl
  · rw [List.foldlM_cons, hstep]
    rfl

theorem text {s : String} (hpos : 0 < number) (hlt : number < 2 ^ 29) (hchild : shape.child? number = none)
    (hstep : step a ⟨number, .bytes s.toUTF8.data.toList⟩ = some b) : Takes shape step (textField number s) a b := by
  refine bytes hpos hlt fun _ => ⟨?_, hstep⟩
  rw [Shape.admitsField]
  simp only [hchild]

theorem message {read : List UInt8 → Option β} {x : β} (hpos : 0 < number) (hlt : number < 2 ^ 29)
    (hchild : shape.child? number = some inner) (h : Encodes inner read content x)
    (hstep : read content = some x → step a ⟨number, .bytes content⟩ = some b) :
    Takes shape step (bytesField number content) a b := by
  refine bytes hpos hlt fun hsize => ?_
  obtain ⟨hwell, hread⟩ := h hsize
  refine ⟨?_, hstep hread⟩
  rw [Shape.admitsField]
  simp only [hchild, hwell]

theorem optional {o : Option β} {write : β → List UInt8} (state : Option β → α)
    (h : ∀ x, o = some x → Takes shape step (write x) (state none) (state (some x))) :
    Takes shape step (o.elim [] write) (state none) (state o) := by
  cases o with
  | none => exact nil
  | some x => exact h x rfl

theorem optionalText {o : Option String} (state : Option String → α) (hpos : 0 < number) (hlt : number < 2 ^ 29)
    (hchild : shape.child? number = none)
    (hstep : ∀ b t, text? b = some t → step (state none) ⟨number, .bytes b⟩ = some (state (some t))) :
    Takes shape step (o.elim [] (textField number)) (state none) (state o) :=
  optional state fun _ _ => text hpos hlt hchild (hstep _ _ (text?_toUTF8 _))

theorem repeated {xs : List β} {write : β → List UInt8} (state : List β → α)
    (h : ∀ x ∈ xs, ∀ ys, Takes shape step (write x) (state ys) (state (ys ++ [x]))) (ys : List β) :
    Takes shape step (xs.flatMap write) (state ys) (state (ys ++ xs)) := by
  induction xs generalizing ys with
  | nil =>
    rw [List.append_nil]
    exact nil
  | cons x rest ih =>
    obtain ⟨hx, hrest⟩ := List.forall_mem_cons.1 h
    have htail := ih hrest (ys ++ [x])
    rw [List.append_assoc, List.singleton_append] at htail
    exact (hx ys).append htail

theorem encodes {read : List UInt8 → Option α} {start : α} (hshape : shape ≠ .numbers)
    (hread : ∀ fs, Written fs s → read s = fs.foldlM step start) (h : Takes shape step s start a) :
    Encodes shape read s a := by
  intro hsize
  obtain ⟨fs, hs, hall, hfold⟩ := h hsize
  exact ⟨by rw [Shape.isWellFormed_of_written hshape hs, hall], by rw [hread fs hs, hfold]⟩

end Takes

end Wire

namespace Request

def FieldDecl.Standard (f : FieldDecl) : Prop :=
  (∀ n ∈ f.label, 1 ≤ n ∧ n ≤ 3) ∧ ∀ n ∈ f.typeCode, 1 ≤ n ∧ n ≤ 18

instance (f : FieldDecl) : Decidable f.Standard := inferInstanceAs (Decidable (_ ∧ _))

def Standard (r : Request) : Prop := ∀ d ∈ r.declared, d.2.Standard

instance (r : Request) : Decidable r.Standard := inferInstanceAs (Decidable (∀ _ ∈ _, _))

theorem FieldDecl.encodes {f : FieldDecl} (h : f.Standard) : Encodes .field ofBytes? f.toBytes f := by
  obtain ⟨name, label, typeCode, typeName⟩ := f
  obtain ⟨hlabel, htypeCode⟩ := h
  have hmod {n k : Nat} (hn : n ≤ k) (hk : k < 2 ^ 32) : n % Nat.pow 2 32 = n :=
    Nat.mod_eq_of_lt (Nat.lt_of_le_of_lt hn hk)
  have hname : Takes .field readStep (name.elim [] (textField 1)) {} { name } := by
    refine .optionalText (fun name => ({ name } : FieldDecl)) (by omega) (by omega) rfl fun b t h => ?_
    simp only [readStep, h, Option.map_some]
  have hlabels : Takes .field readStep (label.elim [] (numberField 4)) { name } { name, label } := by
    refine .optional (fun label => ({ name, label } : FieldDecl)) fun n h => ?_
    have hbounds := hlabel n h
    refine .varint (by omega) (by omega) (by omega) ?_
    simp only [readStep, hmod hbounds.2 (by decide), if_pos hbounds]
  have htypeCodes : Takes .field readStep (typeCode.elim [] (numberField 5)) { name, label }
      { name, label, typeCode } := by
    refine .optional (fun typeCode => ({ name, label, typeCode } : FieldDecl)) fun n h => ?_
    have hbounds := htypeCode n h
    refine .varint (by omega) (by omega) (by omega) ?_
    simp only [readStep, hmod hbounds.2 (by decide), if_pos hbounds]
  have htypeName : Takes .field readStep (typeName.elim [] (textField 6)) { name, label, typeCode }
      { name, label, typeCode, typeName } := by
    refine .optionalText (fun typeName => ({ name, label, typeCode, typeName } : FieldDecl)) (by omega) (by omega)
      rfl fun b t h => ?_
    simp only [readStep, h, Option.map_some]
  exact (((hname.append hlabels).append htypeCodes).append htypeName).encodes (by decide) fun _ => readInto_of_written

theorem takes_flag (b : Bool) {number : Nat} {shape : Shape} {step : α → Wire.Field → Option α} {x y : α}
    (hpos : 0 < number) (hlt : number < 2 ^ 29)
    (hstep : ∀ n, readFlag n = b → step x ⟨number, .varint n⟩ = some y) :
    Takes shape step (flagField number b) x y := by
  cases b with
  | true => exact .varint hpos hlt (by decide) (hstep 1 rfl)
  | false => exact .varint hpos hlt (by decide) (hstep 0 rfl)

theorem mapEntryOf?_encodes (b : Bool) : Encodes .messageOptions mapEntryOf? (flagField 7 b) (some b) := by
  refine Takes.encodes (by decide) (fun _ => readInto_of_written) (takes_flag b (by omega) (by omega) fun n hn => ?_)
  simp only [hn]

def Messages.parts : Messages → List MessageParts
  | .nil => []
  | .cons name isMapEntry fields nested rest => ⟨name, isMapEntry, fields, nested⟩ :: rest.parts

def Messages.ofParts : List MessageParts → Messages
  | [] => .nil
  | m :: rest => .cons m.name m.isMapEntry m.fields m.nested (ofParts rest)

theorem Messages.ofParts_parts (ms : Messages) : ofParts ms.parts = ms := by
  induction ms with
  | nil => rfl
  | cons name isMapEntry fields nested rest _ ih => rw [parts, ofParts, ih]

theorem Messages.ofParts_append_singleton (ps : List MessageParts) (m : MessageParts) :
    ofParts (ps ++ [m]) = (ofParts ps).append m.single := by
  induction ps with
  | nil => rfl
  | cons p rest ih => rw [List.cons_append, ofParts, ih, ofParts, append]

def MessageParts.toBytes (m : MessageParts) : List UInt8 :=
  m.name.elim [] (textField 1) ++ m.fields.flatMap (fun f => bytesField 2 f.toBytes) ++ m.nested.toBytes 3 ++
    m.isMapEntry.elim [] fun b => bytesField 7 (flagField 7 b)

theorem Messages.toBytes_eq_flatMap (number : Nat) (ms : Messages) :
    ms.toBytes number = ms.parts.flatMap fun m => bytesField number m.toBytes := by
  induction ms with
  | nil => rfl
  | cons name isMapEntry fields nested rest _ ih =>
    rw [toBytes, parts, List.flatMap_cons, ih]
    rfl

theorem Messages.takes {shape : Shape} {step : α → Wire.Field → Option α} {number : Nat} (ms : Messages)
    (state : Messages → α) (h : ∀ m ∈ ms.parts, ∀ acc,
      Takes shape step (bytesField number m.toBytes) (state acc) (state (acc.append m.single))) :
    Takes shape step (ms.toBytes number) (state .nil) (state ms) := by
  have htakes := Takes.repeated (fun ps => state (ofParts ps))
    (fun m hm ps => by rw [ofParts_append_singleton]; exact h m hm (ofParts ps)) []
  rw [List.nil_append, ofParts_parts, ← toBytes_eq_flatMap] at htakes
  exact htakes

theorem MessageParts.encodes {m : MessageParts} (hfields : ∀ f ∈ m.fields, f.Standard)
    (hnested : ∀ n ∈ m.nested.parts, Encodes .message read? n.toBytes n) :
    Encodes .message read? m.toBytes m := by
  obtain ⟨name, isMapEntry, fields, nested⟩ := m
  have hname : Takes .message (readStep read?) (name.elim [] (textField 1)) {} { name } := by
    refine .optionalText (fun name => ({ name } : MessageParts)) (by omega) (by omega) rfl fun b t h => ?_
    simp only [readStep, h, Option.map_some]
  have hfield : Takes .message (readStep read?) (fields.flatMap fun f => bytesField 2 f.toBytes) { name }
      { name, fields } := by
    refine .repeated (fun fields => ({ name, fields } : MessageParts)) (fun f hf gs => ?_) []
    refine .message (by omega) (by omega) rfl (FieldDecl.encodes (hfields f hf)) fun h => ?_
    simp only [readStep, h, Option.map_some]
  have hinner : Takes .message (readStep read?) (nested.toBytes 3) { name, fields } { name, fields, nested } := by
    refine nested.takes (fun nested => ({ name, fields, nested } : MessageParts)) fun m hm acc => ?_
    refine .message (by omega) (by omega) rfl (hnested m hm) fun h => ?_
    simp only [readStep, h, Option.map_some]
  have hmark : Takes .message (readStep read?) (isMapEntry.elim [] fun b => bytesField 7 (flagField 7 b))
      { name, fields, nested } { name, isMapEntry, fields, nested } := by
    refine .optional (fun isMapEntry => ({ name, isMapEntry, fields, nested } : MessageParts)) fun b _ => ?_
    refine .message (by omega) (by omega) rfl (mapEntryOf?_encodes b) fun hb => ?_
    simp only [readStep, hb, Option.map_some, Option.some_or]
  exact (((hname.append hfield).append hinner).append hmark).encodes (by decide) fun _ => read?_of_written

theorem Messages.parts_encode {ms : Messages} {scope : String} (h : ∀ d ∈ ms.declared scope, d.2.Standard) :
    ∀ m ∈ ms.parts, Encodes .message MessageParts.read? m.toBytes m := by
  induction ms generalizing scope with
  | nil => exact List.forall_mem_nil _
  | cons name isMapEntry fields nested rest ihnested ihrest =>
    rw [declared] at h
    simp only [List.mem_append, List.mem_map] at h
    intro m hm
    rcases List.mem_cons.1 hm with rfl | hm
    · refine MessageParts.encodes (fun f hf => h _ (.inl (.inr ⟨f, hf, rfl⟩))) ?_
      exact ihnested fun d hd => h d (.inl (.inl hd))
    · exact ihrest (fun d hd => h d (.inr hd)) m hm

theorem MethodDecl.encodes (m : MethodDecl) : Encodes .method ofBytes? m.toBytes m := by
  obtain ⟨name, input, output, clientStreaming, serverStreaming⟩ := m
  have hname : Takes .method readStep (name.elim [] (textField 1)) {} { name } := by
    refine .optionalText (fun name => ({ name } : MethodDecl)) (by omega) (by omega) rfl fun b t h => ?_
    simp only [readStep, h, Option.map_some]
  have hinput : Takes .method readStep (input.elim [] (textField 2)) { name } { name, input } := by
    refine .optionalText (fun input => ({ name, input } : MethodDecl)) (by omega) (by omega) rfl fun b t h => ?_
    simp only [readStep, h, Option.map_some]
  have houtput : Takes .method readStep (output.elim [] (textField 3)) { name, input }
      { name, input, output } := by
    refine .optionalText (fun output => ({ name, input, output } : MethodDecl)) (by omega) (by omega) rfl
      fun b t h => ?_
    simp only [readStep, h, Option.map_some]
  have hclient : Takes .method readStep (clientStreaming.elim [] (flagField 5)) { name, input, output }
      { name, input, output, clientStreaming } := by
    refine .optional (fun clientStreaming => ({ name, input, output, clientStreaming } : MethodDecl)) fun b _ => ?_
    refine takes_flag b (by omega) (by omega) fun n hn => ?_
    simp only [readStep, hn]
  have hserver : Takes .method readStep (serverStreaming.elim [] (flagField 6))
      { name, input, output, clientStreaming } { name, input, output, clientStreaming, serverStreaming } := by
    refine .optional
      (fun serverStreaming => ({ name, input, output, clientStreaming, serverStreaming } : MethodDecl)) fun b _ => ?_
    refine takes_flag b (by omega) (by omega) fun n hn => ?_
    simp only [readStep, hn]
  exact ((((hname.append hinput).append houtput).append hclient).append hserver).encodes (by decide)
    fun _ => readInto_of_written

theorem ServiceDecl.encodes (s : ServiceDecl) : Encodes .service ofBytes? s.toBytes s := by
  obtain ⟨name, methods⟩ := s
  have hname : Takes .service readStep (name.elim [] (textField 1)) {} { name } := by
    refine .optionalText (fun name => ({ name } : ServiceDecl)) (by omega) (by omega) rfl fun b t h => ?_
    simp only [readStep, h, Option.map_some]
  have hmethods : Takes .service readStep (methods.flatMap fun m => bytesField 2 m.toBytes) { name }
      { name, methods } := by
    refine .repeated (fun methods => ({ name, methods } : ServiceDecl)) (fun m _ ms => ?_) []
    refine .message (by omega) (by omega) rfl m.encodes fun h => ?_
    simp only [readStep, h, Option.map_some]
  exact (hname.append hmethods).encodes (by decide) fun _ => readInto_of_written

theorem FileDecl.encodes {f : FileDecl} (h : ∀ d ∈ f.declared, d.2.Standard) :
    Encodes .file ofBytes? f.toBytes f := by
  obtain ⟨name, package, messages, services⟩ := f
  have hname : Takes .file readStep (name.elim [] (textField 1)) {} { name } := by
    refine .optionalText (fun name => ({ name } : FileDecl)) (by omega) (by omega) rfl fun b t h => ?_
    simp only [readStep, h, Option.map_some]
  have hpackage : Takes .file readStep (package.elim [] (textField 2)) { name } { name, package } := by
    refine .optionalText (fun package => ({ name, package } : FileDecl)) (by omega) (by omega) rfl fun b t h => ?_
    simp only [readStep, h, Option.map_some]
  have hmessages : Takes .file readStep (messages.toBytes 4) { name, package } { name, package, messages } := by
    refine messages.takes (fun messages => ({ name, package, messages } : FileDecl)) fun m hm acc => ?_
    refine .message (by omega) (by omega) rfl (Messages.parts_encode h m hm) fun h => ?_
    rw [MessageParts.read?] at h
    simp only [readStep, h, Option.map_some]
  have hservices : Takes .file readStep (services.flatMap fun s => bytesField 6 s.toBytes)
      { name, package, messages } { name, package, messages, services } := by
    refine .repeated (fun services => ({ name, package, messages, services } : FileDecl)) (fun s _ ss => ?_) []
    refine .message (by omega) (by omega) rfl s.encodes fun h => ?_
    simp only [readStep, h, Option.map_some]
  exact (((hname.append hpackage).append hmessages).append hservices).encodes (by decide) fun _ => readInto_of_written

theorem encodes {r : Request} (h : r.Standard) : Encodes .request ofBytes? r.toBytes r := by
  obtain ⟨filesToGenerate, parameter, files⟩ := r
  have hnames : Takes .request readStep (filesToGenerate.flatMap (textField 1)) {} { filesToGenerate } := by
    refine .repeated (fun filesToGenerate => ({ filesToGenerate } : Request)) (fun s _ ss => ?_) []
    refine .text (by omega) (by omega) rfl ?_
    simp only [readStep, text?_toUTF8, Option.map_some]
  have hparameter : Takes .request readStep (parameter.elim [] (textField 2)) { filesToGenerate }
      { filesToGenerate, parameter } := by
    refine .optionalText (fun parameter => ({ filesToGenerate, parameter } : Request)) (by omega) (by omega) rfl
      fun b t h => ?_
    simp only [readStep, h, Option.map_some]
  have hfiles : Takes .request readStep (files.flatMap fun f => bytesField 15 f.toBytes)
      { filesToGenerate, parameter } { filesToGenerate, parameter, files } := by
    refine .repeated (fun files => ({ filesToGenerate, parameter, files } : Request)) (fun f hf fs => ?_) []
    have hfile := FileDecl.encodes fun d hd => h d (List.mem_flatMap.2 ⟨f, hf, hd⟩)
    refine .message (by omega) (by omega) rfl hfile fun h => ?_
    simp only [readStep, h, Option.map_some]
  have htakes : Takes .request readStep (toBytes { filesToGenerate, parameter, files }) {}
      { filesToGenerate, parameter, files } := (hnames.append hparameter).append hfiles
  have hread := htakes.encodes (by decide) fun _ => readInto_of_written
  intro hsize
  obtain ⟨hwell, hr⟩ := hread hsize
  exact ⟨hwell, by rw [ofBytes?, if_pos hwell, hr]⟩

end Request

end RpcBindings
