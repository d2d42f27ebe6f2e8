import RpcBindings.Imports
import RpcBindings.Proofs.Path.Normal
import RpcBindings.Proofs.Rendering.Printer

namespace RpcBindings

open RpcBindings.Path

theorem Text.dropSuffix_append {b tail : String} (h : Text.endsWith b tail = true) (a : String) :
    Text.dropSuffix (a ++ b) tail = a ++ Text.dropSuffix b tail := by
  obtain ⟨front, hfront⟩ := List.isSuffixOf_iff_suffix.1 h
  have hend : Text.endsWith (a ++ b) tail = true := by
    rw [Text.endsWith, List.isSuffixOf_iff_suffix, String.toList_append]
    exact (List.isSuffixOf_iff_suffix.1 h).trans (List.suffix_append _ _)
  have hlength : tail.length ≤ b.length := by
    rw [← String.length_toList, ← String.length_toList, ← hfront, List.length_append]
    omega
  rw [Text.dropSuffix, if_pos hend, Text.dropSuffix, if_pos h, ← String.toList_inj, String.toList_ofList,
    String.toList_append, String.toList_append, String.toList_ofList, String.length_append,
    Nat.add_sub_assoc hlength, ← String.length_toList, List.take_length_add_append]

namespace Path

/-- Below one directory, the way between two others does not depend on that one. -/
theorem relativeDir_of_descends {a b : String} (ha : Descends a) (hb : Descends b) (cwd : List String) :
    relativeDir cwd a b = "/".intercalate (between (directories a) (directories b)) := by
  rw [relativeDir, ha.absolute_folder, hb.absolute_folder, between_append_left]

/-- One more slash is seen at the start only if all before it are slashes: then there are more of them, which
makes a difference up to the third. -/
theorem rootOf_append_slash_iff {b : String} (hb : isAbsolute b = false) (a : String) :
    Location.rootOf (a ++ "/" ++ b) = Location.rootOf a ↔ a ≠ "" ∧ a ≠ "/" ∧ a ≠ "//" := by
  rw [rootOf_append hb]
  by_cases hall : ∀ d ∈ a.toList, d = '/'
  · have ha : a = String.ofList (List.replicate a.toList.length '/') := by
      rw [← List.eq_replicate_of_mem hall, String.ofList_toList]
    have hroot (k : Nat) : Location.rootOf (String.ofList (List.replicate (k + 3) '/')) = "/" := by
      rw [Location.rootOf, String.toList_ofList, List.takeWhile_replicate]
      rfl
    rw [ha]
    rcases a.toList.length with _ | _ | _ | k
    · decide
    · decide
    · decide
    · have hmore : String.ofList (List.replicate (k + 3) '/') ++ "/" =
          String.ofList (List.replicate (k + 1 + 3) '/') := by
        rw [show "/" = String.ofList ['/'] from rfl, ← String.ofList_append, ← List.replicate_succ']
      rw [hmore, hroot, hroot]
      simp [← String.toList_inj, List.replicate_succ]
  · obtain ⟨d, hd, hne⟩ : ∃ d ∈ a.toList, d ≠ '/' := by simpa using hall
    rw [rootOf_append_of_mem hd hne]
    simp only [true_iff]
    refine ⟨?_, ?_, ?_⟩
    · rintro rfl
      exact absurd hd List.not_mem_nil
    · rintro rfl
      exact hne (by simpa using hd)
    · rintro rfl
      exact hne (by simpa using hd)

end Path

variable {cwd : List String} {config : Config} {owner file path : String}

theorem externalPath_eq_ok :
    externalPath cwd config owner file = .ok path ↔
      join? [config.outputRoot, relativeDir cwd owner file, moduleStem config file] = some path := by
  rw [externalPath]
  cases join? [config.outputRoot, relativeDir cwd owner file, moduleStem config file] <;> simp

theorem exists_externalPath (cwd : List String) (owner file : String) (h : config.outputRoot ≠ "") :
    ∃ path, externalPath cwd config owner file = .ok path := by
  simp only [externalPath_eq_ok, join?]
  rw [List.filter_cons_of_pos (by simp [h])]
  exact ⟨_, rfl⟩

/-- The module of a foreign file lies where the way to that file's directory leads from the output root. -/
theorem ofText_externalPath (howner : Descends owner) (hfile : Descends file)
    (hmodule : isAbsolute (moduleStem config file) = false)
    (h : externalPath cwd config owner file = .ok path) :
    Location.ofText path = ⟨Location.rootOf config.outputRoot, parts config.outputRoot ++
      (between (directories owner) (directories file) ++ parts (moduleStem config file))⟩ := by
  have hway : ∀ c ∈ between (directories owner) (directories file), IsPart c :=
    isPart_of_mem_between fun c hc => isPart_of_mem hc
  rw [ofText_of_join? (externalPath_eq_ok.1 h), relativeDir_of_descends howner hfile]
  simp only [List.foldl_cons, List.foldl_nil]
  rw [join_of_relative _ hmodule, join_of_relative _ (isAbsolute_intercalate hway), parts_intercalate hway,
    empty_join, List.append_assoc]
  rfl

theorem messageModule_eq {s : Service} (h : Text.endsWith (baseName s.file) config.protoSuffix = true) :
    s.messageModule config = folder s.file ++ moduleStem config s.file := by
  rw [moduleStem, ← String.append_assoc, ← Text.dropSuffix_append h, folder_append_baseName]
  rfl

theorem ofText_modulePath (config : Config) (m : String) :
    Location.ofText (config.modulePath m) =
      ⟨Location.rootOf (config.outputRoot ++ "/" ++ m), parts config.outputRoot ++ parts m⟩ := by
  rw [← parts_slash]
  rfl

/-- The bindings of a service that uses the types of a file import them from the module that the bindings of
the file's own service import them from, exactly if the output root is more than a slash or two and either the
user lies at the top, or the output root is the root of all paths and the two lie in different top
directories. -/
theorem externalPath_agrees_iff {s : Service}
    (hsuffix : Text.endsWith (baseName s.file) config.protoSuffix = true) (howner : Descends owner)
    (hfile : Descends s.file) (hmodule : Descends (moduleStem config s.file)) :
    (∃ path, externalPath cwd config owner s.file = .ok path ∧ (Location.ofText path).normal =
        (Location.ofText (config.modulePath (s.messageModule config))).normal) ↔
      (config.outputRoot ≠ "" ∧ config.outputRoot ≠ "/" ∧ config.outputRoot ≠ "//") ∧
        (directories owner = [] ∨ (Location.ofText config.outputRoot).IsTop ∧
          (directories owner).head? ≠ (directories s.file).head?) := by
  have hrelative : isAbsolute (s.messageModule config) = false := by
    rw [messageModule_eq hsuffix]
    exact isAbsolute_append hfile.folder.relative hmodule.relative
  have hroot := rootOf_append_slash_iff hrelative config.outputRoot
  have hway := Location.normal_between_iff (l := Location.ofText config.outputRoot)
    howner.not_up_directories hfile.not_up_directories hmodule.not_up
  rw [ofText_modulePath, messageModule_eq hsuffix, parts_folder_append, ← messageModule_eq hsuffix]
  constructor
  · rintro ⟨path, hpath, heq⟩
    rw [ofText_externalPath howner hfile hmodule.relative hpath] at heq
    have hroots := hroot.1 (congrArg Location.root heq).symm
    rw [hroot.2 hroots] at heq
    exact ⟨hroots, hway.1 heq⟩
  · rintro ⟨hroots, hdirs⟩
    obtain ⟨path, hpath⟩ := exists_externalPath cwd owner s.file hroots.1
    refine ⟨path, hpath, ?_⟩
    rw [ofText_externalPath howner hfile hmodule.relative hpath, hroot.2 hroots]
    exact hway.2 hdirs

def pagingService : Service := ⟨"Paging", "common.v1", "common/v1/paging.proto", []⟩

theorem externalPath_agrees_iff_paging :
    ∃ path, externalPath ["home"] {} "ticket.proto" pagingService.file = .ok path ∧
      (Location.ofText path).normal =
        (Location.ofText (Config.modulePath {} (pagingService.messageModule {}))).normal := by
  have hsuffix : Text.endsWith (baseName pagingService.file) (Config.protoSuffix {}) = true := by
    decide +kernel
  have howner : Descends "ticket.proto" := by decide +kernel
  have hfile : Descends pagingService.file := by decide +kernel
  have hmodule : Descends (moduleStem {} pagingService.file) := by decide +kernel
  have hroot : Config.outputRoot {} ≠ "" ∧ Config.outputRoot {} ≠ "/" ∧ Config.outputRoot {} ≠ "//" := by
    decide
  exact (externalPath_agrees_iff hsuffix howner hfile hmodule).2 ⟨hroot, .inl (by decide +kernel)⟩

/-- From two directories down, the way to the other file leads out of the output root. -/
theorem not_externalPath_agrees_nested :
    Text.endsWith pagingService.file (Config.protoSuffix {}) = true ∧
      "tickets/v1/ticket.proto" ≠ pagingService.file ∧
      ¬∃ path, externalPath ["home"] {} "tickets/v1/ticket.proto" pagingService.file = .ok path ∧
        (Location.ofText path).normal =
          (Location.ofText (Config.modulePath {} (pagingService.messageModule {}))).normal := by
  refine ⟨by decide +kernel, by decide, ?_⟩
  rintro ⟨path, hpath, heq⟩
  have hout : externalPath ["home"] {} "tickets/v1/ticket.proto" pagingService.file =
      .ok "./gen/../../common/v1/paging_pb" := by decide +kernel
  cases hpath.symm.trans hout
  exact absurd heq (by decide +kernel)

end RpcBindings
