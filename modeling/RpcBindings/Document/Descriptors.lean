import RpcBindings.Document.Schema
import RpcBindings.Document.Scope
import RpcBindings.Log

namespace RpcBindings.Document

open RpcBindings.Data
open RpcBindings.Schema

inductive Error where
  | invalid (issues : List Issue)
  | duplicateType (typeName file : String)
  | untypedField (typeName field : String)
  | unknownType (ref package : String)
deriving DecidableEq, Repr

def Error.message : Error → String
  | invalid issues =>
    "Descriptor document validation failed: " ++ report "DescriptorDocument" issues
  | duplicateType typeName file => "Duplicate message type '" ++ typeName ++ "' in " ++ file ++ "."
  | untypedField typeName field =>
    "Field '" ++ typeName ++ "." ++ field ++ "' is a message field without a type."
  | unknownType ref package =>
    "Unknown message type '" ++ ref ++ "' (package '" ++ package ++ "')."

def Messages.types (file scope : String) : Messages → List TypeRef
  | .nil => []
  | .cons name _ nested rest =>
    let typeName := qualify scope name
    ⟨typeName, name, file⟩ :: nested.types file typeName ++ rest.types file scope

def FileDecl.types (f : FileDecl) : List TypeRef := f.messages.types f.name f.package

def types (d : Document) : List TypeRef := d.files.flatMap (·.types)

def firstDuplicate (seen : List String) : List TypeRef → Option TypeRef
  | [] => none
  | t :: rest => if t.typeName ∈ seen then some t else firstDuplicate (t.typeName :: seen) rest

/-- A step that resolves references; its state holds the well-known types added so far. -/
abbrev Wiring := EStateM Error (List TypeRef)

def resolve (declared : List TypeRef) (package scope ref : String) : Wiring TypeRef := do
  let added ← get
  match lookup? (declared ++ added) scope ref with
  | some t => return t
  | none =>
    match wellKnown? (bareRef ref) with
    | some t =>
      set (added ++ [t])
      return t
    | none => throw (.unknownType (bareRef ref) package)

/-- The kind of a field: the one declared, else a message if it has a type and a scalar if not. -/
def FieldDecl.kindOrDefault (f : FieldDecl) : FieldKind :=
  f.kind.getD (if f.type.getD "" = "" then .scalar else .message)

def wireField (declared : List TypeRef) (package typeName : String) (f : FieldDecl) : Wiring Field := do
  let type := f.type.getD ""
  let kind := f.kindOrDefault
  if type ≠ "" then
    let target ← resolve declared package typeName type
    return ⟨f.name, kind, f.repeated, some target⟩
  else if kind = .message then throw (.untypedField typeName f.name)
  else return ⟨f.name, kind, f.repeated, none⟩

def wireFields (declared : List TypeRef) (package typeName : String) :
    List FieldDecl → Wiring (List Field)
  | [] => return []
  | f :: rest => do
    let field ← wireField declared package typeName f
    let fields ← wireFields declared package typeName rest
    return field :: fields

def wireMessages (declared : List TypeRef) (file package scope : String) :
    Messages → Wiring (List Message)
  | .nil => return []
  | .cons name fields nested rest => do
    let typeName := qualify scope name
    let fields ← wireFields declared package typeName fields
    let inner ← wireMessages declared file package typeName nested
    let others ← wireMessages declared file package scope rest
    return ⟨typeName, name, file, fields⟩ :: inner ++ others

def wireMethods (declared : List TypeRef) (package : String) : List MethodDecl → Wiring (List Method)
  | [] => return []
  | m :: rest => do
    let input ← resolve declared package package m.input
    let output ← resolve declared package package m.output
    let methods ← wireMethods declared package rest
    return ⟨m.name, input, output, m.kind⟩ :: methods

def wireServices (declared : List TypeRef) (file package : String) :
    List ServiceDecl → Wiring (List Service)
  | [] => return []
  | s :: rest => do
    let methods ← wireMethods declared package s.methods
    let services ← wireServices declared file package rest
    return ⟨s.name, package, file, methods⟩ :: services

def wireFiles (declared : List TypeRef) : List FileDecl → Wiring (List ProtoFile)
  | [] => return []
  | f :: rest => do
    let messages ← wireMessages declared f.name f.package f.package f.messages
    let services ← wireServices declared f.name f.package f.services
    let files ← wireFiles declared rest
    return ⟨f.name, f.package, messages, services⟩ :: files

def wellKnownFile (t : TypeRef) : ProtoFile :=
  { name := t.file, package := wellKnownPackage, messages := [⟨t.typeName, t.name, t.file, []⟩] }

/-- The descriptors of a document, or why there are none; in both cases with the well-known types that
were added. -/
def wire (d : Document) : Except Error DescriptorSet × List TypeRef :=
  match firstDuplicate [] d.types with
  | some t => (.error (.duplicateType t.typeName t.file), [])
  | none =>
    match (wireFiles d.types d.files).run [] with
    | .ok files added => (.ok ⟨files ++ added.map wellKnownFile, d.filesToGenerate⟩, added)
    | .error e added => (.error e, added)

def descriptors (d : Document) : Except Error DescriptorSet := d.wire.1

def parse (v : Value) : Except Error (DescriptorSet × Overrides) :=
  match check v with
  | .fail issues => .error (.invalid issues)
  | .pass d => d.descriptors.map fun s => (s, d.config)

def events (v : Value) : List Log.Event :=
  match check v with
  | .fail _ => []
  | .pass d =>
    let (result, added) := d.wire
    added.map (fun t => .wellKnownAdded t.typeName t.file) ++
      match result with
      | .ok s => [.documentParsed s.files.length (s.files.flatMap (·.services)).length]
      | .error _ => []

end RpcBindings.Document
