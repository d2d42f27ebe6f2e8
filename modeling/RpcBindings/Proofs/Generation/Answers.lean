import RpcBindings.Proofs.Config.Integers
import RpcBindings.Proofs.Generation.Drivers
import RpcBindings.Proofs.Imports.Existence
import RpcBindings.Proofs.Rendering.Files

namespace RpcBindings

open RpcBindings.Files
open RpcBindings.Path

variable {place : Place} {t : Tree}

theorem eq_self_of_mapM_eq_ok {f : α → Except ε α} {xs ys : List α} (h : xs.mapM f = .ok ys)
    (hf : ∀ x ∈ xs, ∀ y, f x = .ok y → y = x) : ys = xs := by
  have hpairs := (List.forall₂_and_left _ _).2 ⟨fun x hx => hx, forall₂_of_mapM_eq_ok h⟩
  have heq := hpairs.imp fun x y hxy => (hf x hxy.1 y hxy.2).symm
  exact (List.forall₂_eq_eq_eq ▸ heq : xs = ys).symm

namespace Rendering

/-- The settings name no directory with a template of its own. -/
def UsesBundled (place : Place) (config : Config) (t : Tree) : Prop :=
  ∀ d, directory config = some d → ∀ key ∈ keys, place.isFile? t (d.child (fileName key)) ≠ .ok true

theorem sourcesIn_eq_bundled {config : Config} (h : UsesBundled place config t) {sources : Template.Sources}
    (hs : sourcesIn place (directory config) t = .ok sources) : sources = bundled := by
  refine eq_self_of_mapM_eq_ok hs fun entry hentry found hfound => ?_
  have hkey : entry.1 ∈ keys := List.mem_map_of_mem (f := Prod.fst) hentry
  change sourceIn place (directory config) t entry.1 entry.2 = .ok found at hfound
  cases hd : directory config with
  | none =>
    rw [hd] at hfound
    cases hfound
    rfl
  | some d =>
    rw [hd] at hfound
    obtain ⟨isFile, hfile, hfound⟩ := bind_eq_ok.1 hfound
    cases isFile with
    | true => exact absurd hfile (h d hd _ hkey)
    | false =>
      cases hfound
      rfl

/-- Where the directory holds no file for any key, the sources are the bundled ones. -/
theorem sourcesIn_of_missing {directory : Option Location}
    (h : ∀ d, directory = some d → ∀ key ∈ keys, place.isFile? t (d.child (fileName key)) = .ok false) :
    sourcesIn place directory t = .ok bundled := by
  have hpure (sources : Template.Sources) :
      sources.mapM (fun entry => (pure entry : Except Files.Error _)) = .ok sources :=
    List.mapM_pure.trans (congrArg pure (List.map_id sources))
  refine mapM_eq_ok_mono (hpure bundled) fun entry hentry found hfound => ?_
  cases hfound
  cases directory with
  | none => rfl
  | some d =>
    have hkey : entry.1 ∈ keys := List.mem_map_of_mem (f := Prod.fst) hentry
    exact bind_eq_ok.2 ⟨false, h d rfl _ hkey, rfl⟩

end Rendering

theorem Failure.isRenderError_file (e : Files.Error) : (Failure.file e).isRenderError = true := by
  cases e with
  | refused code => cases code <;> rfl
  | nullByte => rfl
  | undecodable => rfl

namespace Request

variable {r : Request}

/-- The first service of the request uses a type whose module has no path. -/
def LacksModule (cwd : List String) (r : Request) : Prop :=
  ∃ config set s, Config.build [some r.overrides] = .ok config ∧ r.descriptors = .ok set ∧
    set.firstService? = some s ∧ ∃ t ∈ s.refs, t.LacksModule cwd config s.file

/-- What is told of a request in an error. -/
inductive Fails (place : Place) (t : Tree) (r : Request) : Failure → Prop where
  | settings {issues : List Schema.Issue} (hc : Config.build [some r.overrides] = .error issues) :
    Fails place t r (.settings issues)
  | descriptors {config : Config} {e : Error} (hc : Config.build [some r.overrides] = .ok config)
    (hd : r.descriptors = .error e) : Fails place t r (.request e)
  | templates {config : Config} {set : DescriptorSet} {s : Service} {e : Files.Error}
    (hc : Config.build [some r.overrides] = .ok config) (hd : r.descriptors = .ok set)
    (hs : set.firstService? = some s)
    (ht : Rendering.sourcesIn place (Rendering.directory config) t = .error e) :
    Fails place t r (.file e)

/-- The files that a request without a failure asks for. -/
inductive Generates (place : Place) (t : Tree) (r : Request) : RenderedFiles → Prop where
  | nothing {config : Config} {set : DescriptorSet} (hc : Config.build [some r.overrides] = .ok config)
    (hd : r.descriptors = .ok set) (hs : set.firstService? = none) : Generates place t r []
  | service {config : Config} {set : DescriptorSet} {s : Service} {vm : ViewModel}
    (hc : Config.build [some r.overrides] = .ok config) (hd : r.descriptors = .ok set)
    (hs : set.firstService? = some s) (hvm : ViewModel.ofService place.cwd set config s = .ok vm)
    (ht : Rendering.sourcesIn place (Rendering.directory config) t = .ok Rendering.bundled) :
    Generates place t r (vm.files config)

theorem Fails.isRenderError {f : Failure} (h : r.Fails place t f) : f.isRenderError = true := by
  cases h with
  | settings => rfl
  | descriptors => rfl
  | templates => exact Failure.isRenderError_file _

theorem Fails.halves? {f : Failure} (h : r.Fails place t f) (text : String) : f.halves? text = none := by
  cases h <;> rfl

theorem shortInt_of_build {config : Config} (hc : Config.build [some r.overrides] = .ok config) :
    Json.ShortInt config.queryStaleTime := by
  refine Config.shortInt_of_build hc fun e he => ?_
  obtain ⟨entry, -, rfl⟩ := List.mem_map.1 he
  exact ⟨entry.2, rfl⟩

/-- The ways in which generating from a request ends. -/
inductive Outcome (place : Place) (t : Tree) (r : Request) : Except Failure RenderedFiles → Prop where
  | failed {f : Failure} (hm : ¬r.LacksModule place.cwd) (h : r.Fails place t f) :
    Outcome place t r (.error f)
  | generated {files : RenderedFiles} (hm : ¬r.LacksModule place.cwd) (h : r.Generates place t files) :
    Outcome place t r (.ok files)
  | broken (h : r.LacksModule place.cwd) : Outcome place t r (.error (.imports .emptyPath))

theorem lacksModule_iff {cwd : List String} {config : Config} {set : DescriptorSet} {s : Service}
    (hc : Config.build [some r.overrides] = .ok config) (hd : r.descriptors = .ok set)
    (hs : set.firstService? = some s) :
    r.LacksModule cwd ↔ ∃ t ∈ s.refs, t.LacksModule cwd config s.file := by
  constructor
  · rintro ⟨config', set', s', hc', hd', hs', hlacks⟩
    cases hc.symm.trans hc'
    cases hd.symm.trans hd'
    cases hs.symm.trans hs'
    exact hlacks
  · intro hlacks
    exact ⟨config, set, s, hc, hd, hs, hlacks⟩

theorem renderIn_outcome {config : Config} {set : DescriptorSet} {s : Service} {vm : ViewModel}
    (hc : Config.build [some r.overrides] = .ok config) (hd : r.descriptors = .ok set)
    (hs : set.firstService? = some s) (hvm : ViewModel.ofService place.cwd set config s = .ok vm)
    (h : Rendering.UsesBundled place config t) :
    r.Outcome place t (Generation.renderIn place config t vm) := by
  have hm : ¬r.LacksModule place.cwd := by
    rw [lacksModule_iff hc hd hs]
    rintro ⟨t, ht, hlacks⟩
    exact ViewModel.exists_ofService_iff.1 ⟨vm, hvm⟩ t ht hlacks
  cases ht : Rendering.sourcesIn place (Rendering.directory config) t with
  | error e =>
    rw [Generation.renderIn, ht]
    exact .failed hm (.templates hc hd hs ht)
  | ok sources =>
    have hsources := Rendering.sourcesIn_eq_bundled h ht
    have hfiles : Rendering.files sources config vm = .ok (vm.files config) :=
      hsources ▸ vm.files_bundled config (shortInt_of_build hc)
    rw [Generation.renderIn, ht]
    change r.Outcome place t ((Rendering.files sources config vm).mapError .rendering)
    rw [hfiles]
    exact .generated hm (.service hc hd hs hvm (hsources ▸ ht))

theorem firstIn_outcome {config : Config} {set : DescriptorSet}
    (hc : Config.build [some r.overrides] = .ok config) (hd : r.descriptors = .ok set)
    (h : Rendering.UsesBundled place config t) :
    r.Outcome place t (Generation.firstIn place set config t) := by
  rw [Generation.firstIn, ViewModel.ofFirstService]
  cases hs : set.firstService? with
  | none =>
    refine .generated ?_ (.nothing hc hd hs)
    rintro ⟨_, set', _, -, hd', hs', -⟩
    cases hd.symm.trans hd'
    cases hs.symm.trans hs'
  | some s =>
    cases hvm : ViewModel.ofService place.cwd set config s with
    | error e =>
      have hlacks : ∃ t ∈ s.refs, t.LacksModule place.cwd config s.file := by
        by_contra hnone
        obtain ⟨vm, hvm'⟩ : ∃ vm, ViewModel.ofService place.cwd set config s = .ok vm :=
          ViewModel.exists_ofService_iff.2 fun t ht hlacks => hnone ⟨t, ht, hlacks⟩
        cases hvm.symm.trans hvm'
      dsimp only
      rw [hvm]
      exact .broken ((lacksModule_iff hc hd hs).2 hlacks)
    | ok vm =>
      dsimp only
      rw [hvm]
      exact renderIn_outcome hc hd hs hvm h

theorem filesIn_outcome (h : ∀ config, Config.build [some r.overrides] = .ok config →
    Rendering.UsesBundled place config t) : r.Outcome place t (r.filesIn place t) := by
  rw [filesIn]
  cases hc : Config.build [some r.overrides] with
  | error issues =>
    refine .failed ?_ (.settings hc)
    rintro ⟨config, _, _, hc', -⟩
    cases hc.symm.trans hc'
  | ok config =>
    cases hd : r.descriptors with
    | error e =>
      refine .failed ?_ (.descriptors hc hd)
      rintro ⟨_, set, _, -, hd', -⟩
      cases hd.symm.trans hd'
    | ok set => exact firstIn_outcome hc hd (h config hc)

/-- As long as the bundled templates are used, a request has an answer unless its first service uses a type
whose module has no path. An answer with an error has no files and tells what is wrong with the request; one
without has all files of the first service, or none if there is no service. -/
theorem exists_answer_iff (h : ∀ config, Config.build [some r.overrides] = .ok config →
    Rendering.UsesBundled place config t) (log : List Log.Event) :
    ((∃ a w, r.answer place ⟨t, log⟩ = .ok a w) ↔ ¬r.LacksModule place.cwd) ∧
    (∀ f w, r.answer place ⟨t, log⟩ = .error f w → f = .imports .emptyPath) ∧
    ∀ a w, r.answer place ⟨t, log⟩ = .ok a w →
      (∃ f, r.Fails place t f ∧ a.error = some (programName ++ ": " ++ f.text) ∧ a.files = []) ∨
        (a.error = none ∧ r.Generates place t a.files) := by
  have houtcome := filesIn_outcome h
  obtain ⟨log', hanswer⟩ := r.answer_ends place t log
  rw [hanswer]
  generalize r.filesIn place t = files at houtcome ⊢
  cases houtcome with
  | failed hm hf =>
    rw [response, if_pos hf.isRenderError, hf.halves?]
    refine ⟨⟨fun _ => hm, fun _ => ⟨_, _, rfl⟩⟩, ?_, ?_⟩
    · intro _ _ he
      cases he
    · intro a w ha
      cases ha
      exact .inl ⟨_, hf, rfl, rfl⟩
  | generated hm hg =>
    refine ⟨⟨fun _ => hm, fun _ => ⟨_, _, rfl⟩⟩, ?_, ?_⟩
    · intro _ _ he
      cases he
    · intro a w ha
      cases ha
      exact .inr ⟨rfl, hg⟩
  | broken hm =>
    refine ⟨⟨?_, fun hn => absurd hm hn⟩, ?_, ?_⟩
    · rintro ⟨a, w, ha⟩
      cases ha
    · intro f w he
      cases he
      rfl
    · intro a w ha
      cases ha

def orderRequest (parameter : String) : Request :=
  { filesToGenerate := ["svc.proto"]
    parameter := some parameter
    files := [
      { name := some ".proto"
        package := some "shop"
        messages := .cons (some "Order") none [] .nil .nil },
      { name := some "svc.proto"
        package := some "shop"
        services := [⟨some "Shop",
          [⟨some "GetOrder", some ".shop.Order", some ".shop.Order", none, none⟩]⟩] }] }

def orderRef : TypeRef := ⟨"shop.Order", "Order", ".proto"⟩

def orderService : Service := ⟨"Shop", "shop", "svc.proto", [⟨"GetOrder", orderRef, orderRef, .unary⟩]⟩

def orderSet : DescriptorSet :=
  { files := [⟨".proto", "shop", [⟨"shop.Order", "Order", ".proto", []⟩], []⟩,
      ⟨"svc.proto", "shop", [], [orderService]⟩]
    filesToGenerate := ["svc.proto"] }

/-- One part of the path is enough for an answer. -/
theorem exists_answer_iff_order :
    (∀ config, Config.build [some (orderRequest "output_root=").overrides] = .ok config →
      Rendering.UsesBundled {} config ⟨[]⟩) ∧
      ∃ a w, (orderRequest "output_root=").answer {} ⟨⟨[]⟩, []⟩ = .ok a w ∧ a.error = none ∧
        a.files.map (·.1) = ["client.ts", "api.ts", "index.ts"] := by
  have hc : Config.build [some (orderRequest "output_root=").overrides] = .ok { outputRoot := "" } := by
    decide +kernel
  have hd : (orderRequest "output_root=").descriptors = .ok orderSet := by decide +kernel
  have hs : orderSet.firstService? = some orderService := by decide
  have hbundled : ∀ config, Config.build [some (orderRequest "output_root=").overrides] = .ok config →
      Rendering.UsesBundled {} config ⟨[]⟩ := by
    intro config hconfig d hdirectory
    cases hc.symm.trans hconfig
    cases hdirectory
  have hm : ¬(orderRequest "output_root=").LacksModule (Place.cwd {}) := by
    rintro ⟨config, _, _, hconfig, -, -, t, -, hlacks⟩
    cases hc.symm.trans hconfig
    exact absurd hlacks.suffix (by decide)
  obtain ⟨hexists, -, hanswer⟩ := exists_answer_iff hbundled []
  obtain ⟨a, w, ha⟩ := hexists.2 hm
  refine ⟨hbundled, a, w, ha, ?_⟩
  rcases hanswer a w ha with ⟨f, hf, -⟩ | ⟨hnone, hfiles⟩
  · cases hf with
    | settings hconfig => cases hc.symm.trans hconfig
    | descriptors _ hset => cases hd.symm.trans hset
    | templates hconfig _ _ ht =>
      cases hc.symm.trans hconfig
      cases ht
  · refine ⟨hnone, ?_⟩
    generalize a.files = files at hfiles ⊢
    cases hfiles with
    | nothing _ hset hservice =>
      cases hd.symm.trans hset
      cases hs.symm.trans hservice
    | service hconfig _ _ _ _ =>
      cases hc.symm.trans hconfig
      rfl

theorem no_answer_order :
    ∃ w, (orderRequest "output_root=,pb_suffix=").answer {} ⟨⟨[]⟩, []⟩ =
      .error (.imports .emptyPath) w := by
  have hresponse : response ((orderRequest "output_root=,pb_suffix=").filesIn {} ⟨[]⟩) =
      .error (.imports .emptyPath) := by
    decide +kernel
  obtain ⟨log, hanswer⟩ := (orderRequest "output_root=,pb_suffix=").answer_ends {} ⟨[]⟩ []
  rw [hresponse] at hanswer
  exact ⟨_, hanswer⟩

end Request

end RpcBindings
