import RpcBindings.Proofs.Imports.FirstUse
import RpcBindings.Proofs.Imports.Modules

namespace RpcBindings

namespace Text

theorem endsWith_append (a tail : String) : endsWith (a ++ tail) tail = true := by
  rw [endsWith, List.isSuffixOf_iff_suffix, String.toList_append]
  exact List.suffix_append _ _

theorem dropSuffix_append_self (a tail : String) : dropSuffix (a ++ tail) tail = a := by
  rw [dropSuffix, if_pos (endsWith_append a tail), ← String.toList_inj, String.toList_ofList,
    String.toList_append, String.length_append, Nat.add_sub_cancel, ← String.length_toList, List.take_left]

theorem dropSuffix_eq_empty_iff {s tail : String} : dropSuffix s tail = "" ↔ s = "" ∨ s = tail := by
  by_cases hend : endsWith s tail = true
  · obtain ⟨front, hfront⟩ := List.isSuffixOf_iff_suffix.1 hend
    obtain rfl : String.ofList front ++ tail = s := by
      rw [← String.toList_inj, String.toList_append, String.toList_ofList, hfront]
    rw [dropSuffix_append_self]
    constructor
    · intro h
      rw [h, String.empty_append]
      exact .inr rfl
    · rintro (h | h)
      · exact (String.append_eq_empty_iff.1 h).1
      · have hlength := congrArg String.length h
        rw [String.length_append] at hlength
        exact String.length_eq_zero_iff.1 (by omega)
  · rw [dropSuffix, if_neg hend]
    constructor
    · exact .inl
    · rintro (h | rfl)
      · exact h
      · exact absurd (by simpa using endsWith_append "" s) hend

end Text

theorem Path.join?_eq_none_iff {parts : List String} : join? parts = none ↔ ∀ p ∈ parts, p = "" := by
  have hnil : parts.filter (· ≠ "") = [] ↔ ∀ p ∈ parts, p = "" := by simp
  rw [join?, ← hnil]
  cases parts.filter (· ≠ "") <;> simp

variable {cwd : List String} {config : Config} {owner file : String}

theorem moduleStem_eq_empty_iff : moduleStem config file = "" ↔
    (Path.baseName file = "" ∨ Path.baseName file = config.protoSuffix) ∧ config.pbSuffix = "" := by
  rw [moduleStem, String.append_eq_empty_iff, Text.dropSuffix_eq_empty_iff]

/-- The type is foreign, and nothing is left of the path of its module. -/
structure TypeRef.LacksModule (cwd : List String) (config : Config) (owner : String) (t : TypeRef) :
    Prop where
  notWellKnown : wellKnown? t.typeName = none
  foreign : t.file ≠ owner
  root : config.outputRoot = ""
  way : Path.relativeDir cwd owner t.file = ""
  name : Path.baseName t.file = "" ∨ Path.baseName t.file = config.protoSuffix
  suffix : config.pbSuffix = ""

theorem exists_externalPath_iff : (∃ path, externalPath cwd config owner file = .ok path) ↔
    ¬(config.outputRoot = "" ∧ Path.relativeDir cwd owner file = "" ∧ moduleStem config file = "") := by
  have hnone : Path.join? [config.outputRoot, Path.relativeDir cwd owner file, moduleStem config file] =
      none ↔ config.outputRoot = "" ∧ Path.relativeDir cwd owner file = "" ∧ moduleStem config file = "" :=
    Path.join?_eq_none_iff.trans (by simp)
  simp only [externalPath_eq_ok]
  rw [← hnone, ← Option.isSome_iff_exists, Option.isSome_iff_ne_none]

theorem TypeRef.exists_origin_iff {t : TypeRef} :
    (∃ o, t.origin cwd config owner = .ok o) ↔ ¬t.LacksModule cwd config owner := by
  rw [origin]
  cases hw : wellKnown? t.typeName with
  | some known => exact ⟨fun _ h => absurd h.notWellKnown (by simp [hw]), fun _ => ⟨_, rfl⟩⟩
  | none =>
    dsimp only
    by_cases hfile : t.file = owner
    · rw [if_pos hfile]
      exact ⟨fun _ h => h.foreign hfile, fun _ => ⟨_, rfl⟩⟩
    · rw [if_neg hfile]
      refine (exists_map_eq_ok (Origin.external · t.name)).trans (exists_externalPath_iff.trans ?_)
      rw [moduleStem_eq_empty_iff]
      refine not_congr ⟨?_, fun h => ⟨h.root, h.way, h.name, h.suffix⟩⟩
      rintro ⟨hroot, hway, hname, hsuffix⟩
      exact ⟨hw, hfile, hroot, hway, hname, hsuffix⟩

theorem Service.exists_origins_iff {s : Service} : (∃ pairs, s.origins cwd config = .ok pairs) ↔
    ∀ t ∈ s.refs, ¬t.LacksModule cwd config s.file := by
  simp only [origins, exists_mapM_eq_ok, refs, List.forall_mem_flatMap, ← TypeRef.exists_origin_iff]
  refine forall₂_congr fun m _ => ?_
  rw [exists_bind_eq_ok fun _ => exists_map_eq_ok _]
  simp

/-- A service has a view model exactly if each of its types can be imported. -/
theorem ViewModel.exists_ofService_iff {set : DescriptorSet} {s : Service} :
    (∃ vm, ofService cwd set config s = .ok vm) ↔ ∀ t ∈ s.refs, ¬t.LacksModule cwd config s.file :=
  (exists_map_eq_ok _).trans Service.exists_origins_iff

end RpcBindings
