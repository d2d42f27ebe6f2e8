import RpcBindings.Proofs.Wire.Nested

namespace RpcBindings

open RpcBindings.Wire

namespace Wire

namespace Shape

def bytesRead : Shape → List Nat
  | request => [1, 2, 15]
  | file => [1, 2, 4, 6]
  | message => [1, 2, 3, 7]
  | field => [1, 6]
  | service => [1, 2]
  | method => [1, 2, 3]
  | _ => []

def numbersRead : Shape → List Nat
  | field => [4, 5]
  | messageOptions => [7]
  | method => [5, 6]
  | _ => []

def reads (shape : Shape) (f : Wire.Field) : Bool :=
  match f.payload with
  | .varint _ => shape.numbersRead.contains f.number
  | .bytes _ => shape.bytesRead.contains f.number
  | _ => false

end Shape

/-- The second message is the first one with fields added that are not read, there or in what its fields hold. -/
inductive Padded : Shape → List Wire.Field → List Wire.Field → Prop where
  | nil {shape : Shape} : Padded shape [] []
  | same {shape : Shape} {fs fs' : List Wire.Field} (f : Wire.Field) (h : Padded shape fs fs') :
      Padded shape (f :: fs) (f :: fs')
  | within {shape inner : Shape} {number : Nat} {content content' : List UInt8}
      {fs fs' gs gs' : List Wire.Field} (hchild : shape.child? number = some inner) (hinner : inner ≠ .numbers)
      (hc : Written gs content) (hc' : Written gs' content') (hp : Padded inner gs gs') (h : Padded shape fs fs') :
      Padded shape (⟨number, .bytes content⟩ :: fs) (⟨number, .bytes content'⟩ :: fs')
  | added {shape : Shape} {fs fs' : List Wire.Field} {f : Wire.Field} (hread : shape.reads f = false)
      (hf : shape.admitsField f = true) (h : Padded shape fs fs') : Padded shape fs (f :: fs')
  /-- Options in which nothing is set that is read. -/
  | options {content : List UInt8} {fs fs' gs : List Wire.Field} (hc : Written gs content)
      (hp : Padded .messageOptions [] gs) (h : Padded .message fs fs') :
      Padded .message fs (⟨7, .bytes content⟩ :: fs')

namespace Padded

variable {shape : Shape} {fs fs' : List Wire.Field}

theorem refl (fs : List Wire.Field) : Padded shape fs fs := by
  induction fs with
  | nil => exact .nil
  | cons f rest ih => exact .same f ih

theorem all_admits (h : Padded shape fs fs') : fs'.all shape.admitsField = fs.all shape.admitsField := by
  induction h with
  | nil => rfl
  | same f _ ih => rw [List.all_cons, List.all_cons, ih]
  | within hchild hinner hc hc' _ _ ihp ih =>
    rw [List.all_cons, List.all_cons, ih, Shape.admitsField, Shape.admitsField]
    simp only [hchild, Shape.isWellFormed_of_written hinner hc, Shape.isWellFormed_of_written hinner hc', ihp]
  | added _ hf _ ih => rw [List.all_cons, hf, ih, Bool.true_and]
  | options hc _ _ ihp ih =>
    have hchild : Shape.message.child? 7 = some .messageOptions := rfl
    have hinner : Shape.messageOptions ≠ .numbers := by decide
    rw [List.all_cons, ih, Shape.admitsField]
    simp only [hchild, Shape.isWellFormed_of_written hinner hc, ihp, List.all_nil, Bool.true_and]

/-- Reading ignores what was added if it ignores every field that is not read, and reads alike the messages that
the fields hold; of messages of the same shape that may be assumed. -/
theorem foldlM_eq {step : α → Wire.Field → Option α} (h : Padded shape fs fs')
    (hunread : ∀ a f, shape.reads f = false → step a f = some a)
    (hwithin : ∀ a {number inner content content' gs gs'}, number ∈ shape.bytesRead →
      shape.child? number = some inner → Written gs content → Written gs' content' → Padded inner gs gs' →
      (inner = shape → ∀ a, gs'.foldlM step a = gs.foldlM step a) →
      step a ⟨number, .bytes content'⟩ = step a ⟨number, .bytes content⟩)
    (hoptions : ∀ a {content gs}, shape = .message → Written gs content → Padded .messageOptions [] gs →
      step a ⟨7, .bytes content⟩ = some a) (a : α) :
    fs'.foldlM step a = fs.foldlM step a := by
  induction h generalizing a with
  | nil => rfl
  | same f _ ih =>
    rw [List.foldlM_cons, List.foldlM_cons]
    exact bind_congr fun b => ih hunread hwithin hoptions b
  | @within shape inner number content content' _ _ gs gs' hchild _ hc hc' hp _ ihp ih =>
    have hsame (heq : inner = shape) : ∀ a, gs'.foldlM step a = gs.foldlM step a := by
      subst heq
      exact ihp hunread hwithin hoptions
    have hstep : step a ⟨number, .bytes content'⟩ = step a ⟨number, .bytes content⟩ := by
      by_cases hmem : number ∈ shape.bytesRead
      · exact hwithin a hmem hchild hc hc' hp hsame
      · have hread (c : List UInt8) : shape.reads ⟨number, .bytes c⟩ = false := by
          simpa [Shape.reads] using hmem
        rw [hunread a _ (hread content), hunread a _ (hread content')]
    rw [List.foldlM_cons, List.foldlM_cons, hstep]
    exact bind_congr fun b => ih hunread hwithin hoptions b
  | added hread _ _ ih =>
    rw [List.foldlM_cons, hunread a _ hread]
    exact ih hunread hwithin hoptions a
  | options hc hp _ _ ih =>
    rw [List.foldlM_cons, hoptions a rfl hc hp]
    exact ih hunread hwithin hoptions a

end Padded

end Wire

namespace Request

variable {shape : Shape} {fs fs' : List Wire.Field} {s s' : List UInt8}

theorem FieldDecl.readStep_unread (f : FieldDecl) (w : Wire.Field) (h : Shape.field.reads w = false) :
    f.readStep w = some f := by
  unfold readStep
  split
  case h_5 => rfl
  all_goals
    rename_i hn hp
    simp [Shape.reads, Shape.bytesRead, Shape.numbersRead, hn, hp] at h

theorem MethodDecl.readStep_unread (m : MethodDecl) (w : Wire.Field) (h : Shape.method.reads w = false) :
    m.readStep w = some m := by
  unfold readStep
  split
  case h_6 => rfl
  all_goals
    rename_i hn hp
    simp [Shape.reads, Shape.bytesRead, Shape.numbersRead, hn, hp] at h

theorem ServiceDecl.readStep_unread (d : ServiceDecl) (w : Wire.Field) (h : Shape.service.reads w = false) :
    d.readStep w = some d := by
  unfold readStep
  split
  case h_3 => rfl
  all_goals
    rename_i hn hp
    simp [Shape.reads, Shape.bytesRead, hn, hp] at h

theorem MessageParts.readStep_unread (inner : List UInt8 → Option MessageParts) (m : MessageParts) (w : Wire.Field)
    (h : Shape.message.reads w = false) : m.readStep inner w = some m := by
  unfold readStep
  split
  case h_5 => rfl
  all_goals
    rename_i hn hp
    simp [Shape.reads, Shape.bytesRead, hn, hp] at h

theorem FileDecl.readStep_unread (f : FileDecl) (w : Wire.Field) (h : Shape.file.reads w = false) :
    f.readStep w = some f := by
  unfold readStep
  split
  case h_5 => rfl
  all_goals
    rename_i hn hp
    simp [Shape.reads, Shape.bytesRead, hn, hp] at h

theorem readStep_unread (r : Request) (w : Wire.Field) (h : Shape.request.reads w = false) :
    r.readStep w = some r := by
  unfold readStep
  split
  case h_4 => rfl
  all_goals
    rename_i hn hp
    simp [Shape.reads, Shape.bytesRead, hn, hp] at h

variable {content content' : List UInt8}

theorem FieldDecl.ofBytes?_padded (hc : Written fs content) (hc' : Written fs' content')
    (h : Padded .field fs fs') : ofBytes? content' = ofBytes? content := by
  rw [ofBytes?, readInto_of_written hc, readInto_of_written hc']
  refine h.foldlM_eq readStep_unread ?_ nofun {}
  intro f number _ _ _ _ _ hmem hchild
  simp only [Shape.bytesRead, List.mem_cons, List.not_mem_nil, or_false] at hmem
  rcases hmem with rfl | rfl
  · cases hchild
  · cases hchild

theorem MethodDecl.ofBytes?_padded (hc : Written fs content) (hc' : Written fs' content')
    (h : Padded .method fs fs') : ofBytes? content' = ofBytes? content := by
  rw [ofBytes?, readInto_of_written hc, readInto_of_written hc']
  refine h.foldlM_eq readStep_unread ?_ nofun {}
  intro m number _ _ _ _ _ hmem hchild
  simp only [Shape.bytesRead, List.mem_cons, List.not_mem_nil, or_false] at hmem
  rcases hmem with rfl | rfl | rfl
  · cases hchild
  · cases hchild
  · cases hchild

theorem ServiceDecl.ofBytes?_padded (hc : Written fs content) (hc' : Written fs' content')
    (h : Padded .service fs fs') : ofBytes? content' = ofBytes? content := by
  rw [ofBytes?, readInto_of_written hc, readInto_of_written hc']
  refine h.foldlM_eq readStep_unread ?_ nofun {}
  intro d number _ _ _ _ _ hmem hchild hc hc' hp _
  simp only [Shape.bytesRead, List.mem_cons, List.not_mem_nil, or_false] at hmem
  rcases hmem with rfl | rfl
  · cases hchild
  · cases hchild
    simp only [readStep, MethodDecl.ofBytes?_padded hc hc' hp]

theorem mapEntryOf?_padded (hc : Written fs content) (hc' : Written fs' content')
    (h : Padded .messageOptions fs fs') : mapEntryOf? content' = mapEntryOf? content := by
  rw [mapEntryOf?, readInto_of_written hc, readInto_of_written hc']
  refine h.foldlM_eq ?_ nofun nofun none
  intro mark w hread
  split
  · rename_i hn hp
    simp [Shape.reads, Shape.numbersRead, hn, hp] at hread
  · rfl

theorem MessageParts.read?_padded (hc : Written fs content) (hc' : Written fs' content')
    (h : Padded .message fs fs') : read? content' = read? content := by
  rw [read?_of_written hc, read?_of_written hc']
  refine h.foldlM_eq (readStep_unread read?) ?_ ?_ {}
  · intro m number _ _ _ _ _ hmem hchild hc hc' hp hsame
    simp only [Shape.bytesRead, List.mem_cons, List.not_mem_nil, or_false] at hmem
    rcases hmem with rfl | rfl | rfl | rfl
    · cases hchild
    · cases hchild
      simp only [readStep, FieldDecl.ofBytes?_padded hc hc' hp]
    · cases hchild
      simp only [readStep, read?_of_written hc, read?_of_written hc', hsame rfl]
    · cases hchild
      simp only [readStep, mapEntryOf?_padded hc hc' hp]
  · intro m content gs _ hc hp
    have hnone : mapEntryOf? content = some none := mapEntryOf?_padded .nil hc hp
    simp only [readStep, hnone, Option.map_some, Option.none_or]

theorem FileDecl.ofBytes?_padded (hc : Written fs content) (hc' : Written fs' content')
    (h : Padded .file fs fs') : ofBytes? content' = ofBytes? content := by
  rw [ofBytes?, readInto_of_written hc, readInto_of_written hc']
  refine h.foldlM_eq readStep_unread ?_ nofun {}
  intro f number _ _ _ _ _ hmem hchild hc hc' hp _
  simp only [Shape.bytesRead, List.mem_cons, List.not_mem_nil, or_false] at hmem
  rcases hmem with rfl | rfl | rfl | rfl
  · cases hchild
  · cases hchild
  · cases hchild
    have hread := MessageParts.read?_padded hc hc' hp
    simp only [MessageParts.read?] at hread
    simp only [readStep, hread]
  · cases hchild
    simp only [readStep, ServiceDecl.ofBytes?_padded hc hc' hp]

/-- A request stays the same whatever is added that is not read. -/
theorem ofBytes?_padded (hc : Written fs content) (hc' : Written fs' content') (h : Padded .request fs fs') :
    ofBytes? content' = ofBytes? content := by
  have hshape : Shape.request ≠ .numbers := by decide
  have hsame : fs'.foldlM readStep ({} : Request) = fs.foldlM readStep {} := by
    refine h.foldlM_eq readStep_unread ?_ nofun {}
    intro r number _ _ _ _ _ hmem hchild hc hc' hp _
    simp only [Shape.bytesRead, List.mem_cons, List.not_mem_nil, or_false] at hmem
    rcases hmem with rfl | rfl | rfl
    · cases hchild
    · cases hchild
    · cases hchild
      simp only [readStep, FileDecl.ofBytes?_padded hc hc' hp]
  rw [ofBytes?, ofBytes?, Shape.isWellFormed_of_written hshape hc, Shape.isWellFormed_of_written hshape hc',
    h.all_admits, readInto_of_written hc, readInto_of_written hc', hsame]

end Request

end RpcBindings
