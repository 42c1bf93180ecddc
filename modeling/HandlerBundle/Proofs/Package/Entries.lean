import HandlerBundle.Proofs.Binding.Manifest
import HandlerBundle.Proofs.Package.Abort
import HandlerBundle.Proofs.Package.Guarantee

/-!
# Trigger and output entries

The host goes by the entries of a manifest: one of them says how the handler is invoked, and an
entry with the direction `out` says where its result goes. Whether a handler is accepted is decided
by counting roles, which the entries know nothing of. For the shipped bindings the two counts agree,
also for the one that fills both roles and has two entries. So the manifest of an accepted handler
has one trigger entry, and one output entry exactly if a binding takes the result. For a handler
whose roles are not filled once, packaging writes nothing at all.

## Main definitions

* `ShippedBinding.invokes`, `ShippedBinding.takesResult` — what a binding is for.
* `Manifest.triggers`, `Manifest.outputs` — the trigger and the output entries of a manifest.

## Main results

* `length_triggers_shipped`, `names_outputs_shipped` — the entries of shipped bindings.
* `manifest_roles_filled_once` — the manifest that is written, if one is.
-/

namespace HandlerBundle

open FileTree

/-! ### What bindings are for -/

namespace ShippedBinding

/-- Whether a binding says how its handler is invoked. -/
def invokes : ShippedBinding → Bool
  | .httpTrigger .. | .timerTrigger .. | .queueTrigger .. => true
  | .queueResult .. | .blobInput .. => false

/-- Whether a binding says where the result of its handler goes. -/
def takesResult : ShippedBinding → Bool
  | .httpTrigger .. | .queueResult .. => true
  | .timerTrigger .. | .queueTrigger .. | .blobInput .. => false

end ShippedBinding

/-- Whether a shipped attribute settles what becomes of the result: the stand-in says that there is
none. -/
def settlesResult (b : Option ShippedBinding) : Bool :=
  b.all ShippedBinding.takesResult

/-! ### Entries -/

/-- The kinds of entry that say how a handler is invoked. -/
def triggerKinds : List String := ["httpTrigger", "timerTrigger", "queueTrigger"]

/-- Whether an entry of a manifest says how the handler is invoked. -/
def isTriggerEntry (members : List (String × Json)) : Bool :=
  match Json.member? members "type" with
  | some (.text kind) => triggerKinds.contains kind
  | _ => false

/-- Whether an entry of a manifest has the direction of an output. -/
def isOutputEntry (members : List (String × Json)) : Bool :=
  match Json.member? members "direction" with
  | some (.text "out") => true
  | _ => false

namespace Manifest

/-- The entries that say how the handler is invoked. -/
def triggers (m : Manifest) : List (List (String × Json)) := m.bindings.filter isTriggerEntry

/-- The entries that say where the result goes. -/
def outputs (m : Manifest) : List (List (String × Json)) := m.bindings.filter isOutputEntry

end Manifest

variable {handler : Descriptor} {bs : List (Option ShippedBinding)} {m : Manifest}

theorem isTrigger_shippedAttribute (b : Option ShippedBinding) :
    (shippedAttribute b).isTrigger = b.any ShippedBinding.invokes := by
  rcases b with _ | b
  · rfl
  · cases b <;> rfl

theorem isResult_shippedAttribute (b : Option ShippedBinding) :
    (shippedAttribute b).isResult = settlesResult b := by
  rcases b with _ | b
  · rfl
  · cases b <;> rfl

/-- A shipped attribute has one trigger entry if it says how the handler is invoked. -/
theorem length_triggers_shippedAttribute (b : Option ShippedBinding) :
    ((shippedAttribute b).objects.filter isTriggerEntry).length =
      if b.any ShippedBinding.invokes then 1 else 0 := by
  rcases b with _ | b
  · rfl
  · cases b with
    | httpTrigger _ route => cases route <;> rfl
    | _ => rfl

/-- A shipped attribute has one output entry if it takes the result, and its name stands for the
result. -/
theorem names_outputs_shippedAttribute (b : Option ShippedBinding) :
    ((shippedAttribute b).objects.filter isOutputEntry).map (Json.member? · "name") =
      if b.any ShippedBinding.takesResult then [some (.text "$return")] else [] := by
  rcases b with _ | b
  · rfl
  · cases b with
    | httpTrigger _ route => cases route <;> rfl
    | _ => rfl

/-- **Trigger entries.** There are as many as bindings that say how the handler is invoked. -/
theorem length_triggers_shipped
    (hbindings : m.bindings = (bs.map shippedAttribute).flatMap Attribute.objects) :
    m.triggers.length = bs.countP (·.any ShippedBinding.invokes) := by
  rw [Manifest.triggers, hbindings]
  clear hbindings
  induction bs with
  | nil => rfl
  | cons b bs ih =>
    rw [List.map_cons, List.flatMap_cons, List.filter_append, List.length_append, ih,
      length_triggers_shippedAttribute, List.countP_cons, Nat.add_comm]

/-- **Output entries.** There are as many as bindings that take the result, each with the name that
stands for it. -/
theorem names_outputs_shipped
    (hbindings : m.bindings = (bs.map shippedAttribute).flatMap Attribute.objects) :
    m.outputs.map (Json.member? · "name") =
      List.replicate (bs.countP (·.any ShippedBinding.takesResult)) (some (.text "$return")) := by
  rw [Manifest.outputs, hbindings]
  clear hbindings
  induction bs with
  | nil => rfl
  | cons b bs ih =>
    rw [List.map_cons, List.flatMap_cons, List.filter_append, List.map_append, ih,
      names_outputs_shippedAttribute, List.countP_cons]
    split_ifs
    · exact List.replicate_succ.symm
    · rfl

/-- The stand-in for a missing result binding has no entries. -/
theorem flatMap_objects_completed (attributes : List Attribute) :
    (completed attributes).flatMap Attribute.objects =
      attributes.flatMap Attribute.objects := by
  rw [completed]
  split_ifs
  · rfl
  · rw [List.flatMap_append]
    exact List.append_nil _

/-- A handler with shipped attributes has a manifest, with the entries of its own attributes. -/
theorem exists_manifest_resolve (handler : Descriptor) (bs : List (Option ShippedBinding)) :
    ∃ m, Manifest.ofAttributes (resolve handler (bs.map shippedAttribute)).attributes = .ok m ∧
      m.bindings = (bs.map shippedAttribute).flatMap Attribute.objects := by
  by_cases hshape : handler.IsReproducible
  · obtain ⟨bs', hbs', -, -⟩ := exists_completed_eq bs
    obtain ⟨m, hm⟩ := exists_ofAttributes_shipped bs'
    rw [attributes_resolve _ hshape]
    rw [← hbs'] at hm
    exact ⟨m, hm, (Manifest.bindings_eq hm).trans (flatMap_objects_completed _)⟩
  · rw [resolve_eq_of_not_isReproducible _ hshape]
    obtain ⟨m, hm⟩ := exists_ofAttributes_shipped bs
    exact ⟨m, hm, Manifest.bindings_eq hm⟩

/-! ### Roles -/

/-- Shipped attributes fill the roles if one of them says how the handler is invoked, and at most
one settles the result. -/
theorem fillRoles_shipped_iff :
    FillRoles (bs.map shippedAttribute) ↔
      bs.countP (·.any ShippedBinding.invokes) = 1 ∧ bs.countP settlesResult ≤ 1 := by
  rw [FillRoles, List.countP_map, List.countP_map]
  simp only [Function.comp_def, isTrigger_shippedAttribute, isResult_shippedAttribute]

/-- An attribute that takes the result settles it. -/
theorem countP_takesResult_le (bs : List (Option ShippedBinding)) :
    bs.countP (·.any ShippedBinding.takesResult) ≤ bs.countP settlesResult := by
  refine List.countP_mono_left fun b _ htakes => ?_
  cases b with
  | none => rfl
  | some b => exact htakes

/-! ### Manifests that are written -/

/-- Two trigger-capable or result-capable attributes, or no trigger-capable one, are an error. -/
theorem errors_resolve_ne_nil {attributes : List Attribute} (hroles : ¬FillRoles attributes) :
    (resolve handler attributes).errors ≠ [] := by
  rw [ne_eq, errors_resolve_eq_nil_iff]
  exact fun haccepted => hroles haccepted.2.1

/-- The manifest of a candidate that has been packaged is in its directory. -/
theorem manifest_of_buildOf {ctx : PackageContext} {c : Candidate} {r : PackageResult}
    {d : TreePath} {w v : Workspace} (hhooks : ∀ a ∈ c.attributes, a.build.OnlyAdds)
    (hbuild : (buildOf ctx c).run.run w = (.ok r, v)) (hd : r.directory = some d) :
    ∃ m, Manifest.ofAttributes (resolve c.handler c.attributes).attributes = .ok m ∧
      v.files.content? (d ++ [Manifest.fileName]) = some (.bytes (Utf8.encode m.encode)) := by
  rcases buildArtifact_cases hbuild with ⟨f, hf, -⟩ | ⟨name, -, u, -, hmade, hfill⟩
  · cases hf
  · have hthere := mem_directories_of_made hmade
    obtain ⟨captured, u₁, u₂, artifacts, hwritten, hrun, hafter, rfl⟩ := fillDirectory_eq_ok hfill
    obtain rfl := Option.some.inj hd
    obtain ⟨-, -, -, m, hm, hfilled⟩ := writeArtifact_eq_ok hthere hwritten
    have hretains := runHooks_changes (R := Retains (pathOf name)) (Retains.refl _) Retains.trans
      (fun a ha t => (forall_hooks_resolve BuildHook.onlyAdds_idle hhooks a ha).retains
        (pathOf name) t (pathOf name)) u₁
    rw [hrun, ← hafter] at hretains
    refine ⟨m, hm, (hretains (hfilled.directories ▸ hthere)).2 _ _ ?_⟩
    refine hfilled.written ([Manifest.fileName], _)
      (List.mem_append_left _ (List.mem_append_left _ ?_))
    simp only [capturedFiles, List.mem_cons, true_or, or_true]

/-- A candidate with a directory has been accepted, and its manifest is in the directory. -/
theorem manifest_of_packageOne {ctx : PackageContext} {c : Candidate} {r : PackageResult}
    {d : TreePath} {w v : Workspace} (hhooks : ∀ a ∈ c.attributes, a.build.OnlyAdds)
    (hrun : (packageOne ctx c).run.run w = (.ok r, v)) (hd : r.directory = some d) :
    (resolve c.handler c.attributes).errors = [] ∧
      ∃ m, Manifest.ofAttributes (resolve c.handler c.attributes).attributes = .ok m ∧
        v.files.content? (d ++ [Manifest.fileName]) = some (.bytes (Utf8.encode m.encode)) := by
  rcases packageOne_cases hrun with ⟨-, rfl, -⟩ | ⟨haccepted, hbuild⟩ | ⟨-, f, u, -, rfl, -⟩
  · cases hd
  · exact ⟨haccepted, manifest_of_buildOf hhooks hbuild hd⟩
  · cases hd

theorem onlyAdds_shippedAttribute (b : Option ShippedBinding) :
    (shippedAttribute b).build.OnlyAdds := by
  cases b <;> exact BuildHook.onlyAdds_idle

/-- A candidate that is rejected changes no file in any of its steps, whatever is done beside them,
and comes to no directory. -/
theorem ensures_packageSteps_of_rejected {c : Candidate}
    (hrejected : (resolve c.handler c.attributes).errors ≠ []) (ctx : PackageContext)
    (place : String) (t : FileTree) :
    (packageSteps ctx c).Ensures place (fun _ _ => True) Eq (fun r _ => r.directory = none) t := by
  have hmessages : ((resolve c.handler c.attributes).errors.map (·.message)).isEmpty = false := by
    rw [List.isEmpty_eq_false_iff, ne_eq, List.map_eq_nil_iff]
    exact hrejected
  unfold packageSteps
  simp only [hmessages, Bool.not_false, if_true]
  exact ensures_rejectSteps _ _

/-- The one binding that takes the result has the one output entry. -/
theorem exists_outputs_eq_singleton
    (hbindings : m.bindings = (bs.map shippedAttribute).flatMap Attribute.objects)
    (hroles : FillRoles (bs.map shippedAttribute)) {b : ShippedBinding} (hb : some b ∈ bs)
    (htakes : b.takesResult = true) :
    ∃ entry, m.outputs = [entry] ∧ Json.member? entry "name" = some (.text "$return") := by
  have hpos : 0 < bs.countP (·.any ShippedBinding.takesResult) :=
    List.countP_pos_iff.mpr ⟨some b, hb, htakes⟩
  have hle := (countP_takesResult_le bs).trans (fillRoles_shipped_iff.mp hroles).2
  have hnames := names_outputs_shipped hbindings
  rw [Nat.le_antisymm hle hpos] at hnames
  obtain ⟨entry, hentry, hname⟩ := List.map_eq_singleton_iff.mp hnames
  exact ⟨entry, hentry, hname⟩

/-- Without a binding that takes the result there is no output entry. -/
theorem outputs_eq_nil
    (hbindings : m.bindings = (bs.map shippedAttribute).flatMap Attribute.objects)
    (hnone : ∀ b, some b ∈ bs → b.takesResult = false) : m.outputs = [] := by
  have hzero : bs.countP (·.any ShippedBinding.takesResult) = 0 := by
    refine List.countP_eq_zero.mpr fun b hb => ?_
    cases b with
    | none => exact Bool.false_ne_true
    | some b => exact fun htakes => Bool.false_ne_true ((hnone b hb).symm.trans htakes)
  have hnames := names_outputs_shipped hbindings
  rw [hzero] at hnames
  exact List.map_eq_nil_iff.mp hnames

/-- **Roles in a manifest.** Take a candidate with shipped attributes, in any number and order. They
have a manifest.

If the candidate is accepted, its manifest has exactly one trigger entry. If one of its bindings
takes the result, it has exactly one entry with the direction `out`, whose name stands for the
result, and none otherwise. Packaging the candidate writes this manifest into the directory that it
comes to.

If no attribute or more than one says how the handler is invoked, or more than one settles the
result, the candidate is rejected. Packaging it changes no file, nor does any of its steps beside
those of others. -/
theorem manifest_roles_filled_once (value : ObjectId) (handler : Descriptor)
    (bs : List (Option ShippedBinding)) :
    let c : Candidate := ⟨value, handler, bs.map shippedAttribute⟩
    let set := resolve handler (bs.map shippedAttribute)
    ∃ manifest, Manifest.ofAttributes set.attributes = .ok manifest ∧
    (set.errors = [] →
      manifest.triggers.length = 1 ∧
      ((∃ b, some b ∈ bs ∧ b.takesResult = true) →
        ∃ entry, manifest.outputs = [entry] ∧ Json.member? entry "name" = some (.text "$return")) ∧
      ((∀ b, some b ∈ bs → b.takesResult = false) → manifest.outputs = [])) ∧
    (∀ ctx w r v d, (packageOne ctx c).run.run w = (.ok r, v) → r.directory = some d →
      set.errors = [] ∧ v.files.content? (d ++ [Manifest.fileName]) =
        some (.bytes (Utf8.encode manifest.encode))) ∧
    (bs.countP (·.any ShippedBinding.invokes) ≠ 1 ∨ 1 < bs.countP settlesResult →
      set.errors ≠ [] ∧
      ∀ ctx, (∀ w, ∃ v, (packageOne ctx c).run.run w = (.ok (rejection c), v) ∧
          v.files = w.files) ∧
        ∀ place t, (packageSteps ctx c).Ensures place (fun _ _ => True) Eq
          (fun r _ => r.directory = none) t) := by
  intro c set
  obtain ⟨manifest, hmanifest, hbindings⟩ := exists_manifest_resolve handler bs
  refine ⟨manifest, hmanifest, fun haccepted => ?_, fun ctx w r v d hrun hd => ?_,
    fun hcounts => ?_⟩
  · obtain ⟨-, hroles, -, -⟩ := (errors_resolve_eq_nil_iff _ _).mp haccepted
    refine ⟨?_, ?_, outputs_eq_nil hbindings⟩
    · rw [length_triggers_shipped hbindings]
      exact (fillRoles_shipped_iff.mp hroles).1
    · rintro ⟨b, hb, htakes⟩
      exact exists_outputs_eq_singleton hbindings hroles hb htakes
  · have hhooks : ∀ a ∈ c.attributes, a.build.OnlyAdds := by
      intro a ha
      obtain ⟨b, -, rfl⟩ := List.mem_map.mp ha
      exact onlyAdds_shippedAttribute b
    obtain ⟨haccepted, m, hm, hcontent⟩ := manifest_of_packageOne hhooks hrun hd
    obtain rfl := Except.ok.inj (hmanifest.symm.trans hm)
    exact ⟨haccepted, hcontent⟩
  · have hrejected : set.errors ≠ [] := by
      refine errors_resolve_ne_nil fun hroles => ?_
      obtain ⟨hinvokes, hsettles⟩ := fillRoles_shipped_iff.mp hroles
      omega
    exact ⟨hrejected, fun ctx => ⟨fun w => ⟨_, packageOne_run_of_rejected hrejected, rfl⟩,
      ensures_packageSteps_of_rejected hrejected ctx⟩⟩

/-! ### A request with an answer -/

/-- A handler that answers a request. -/
def answerHandler : Descriptor where
  scope := "pkg.mod"
  name := "answer"
  parameters := [⟨"req", ShippedBinding.ofKnown .httpRequest⟩]
  result := ShippedBinding.ofKnown .str
  shapeErrors := []

/-- A request that comes in, with the answer to it. -/
def requestBinding : Option ShippedBinding :=
  some (.httpTrigger ["GET"] (some "orders") "function" "req")

/-- The one binding fills both roles, and its manifest has an entry for each. With a queue for the
result beside it, the handler is rejected. -/
theorem manifest_roles_filled_once_answerHandler :
    let set := resolve answerHandler ([requestBinding].map shippedAttribute)
    let queued := [requestBinding, some (.queueResult "jobs" ShippedBinding.defaultConnection)]
    set.errors = [] ∧
      (∃ manifest, Manifest.ofAttributes set.attributes = .ok manifest ∧
        manifest.triggers.length = 1 ∧
        ∃ entry, manifest.outputs = [entry] ∧
          Json.member? entry "name" = some (.text "$return")) ∧
      1 < queued.countP settlesResult ∧
      (resolve answerHandler (queued.map shippedAttribute)).errors ≠ [] := by
  intro set queued
  have haccepted : set.errors = [] := List.isEmpty_iff.mp (by decide +kernel)
  obtain ⟨manifest, hmanifest, hentries, -, -⟩ :=
    manifest_roles_filled_once 0 answerHandler [requestBinding]
  obtain ⟨htriggers, houtputs, -⟩ := hentries haccepted
  have htwice : 1 < queued.countP settlesResult := by decide
  obtain ⟨-, -, -, -, hrejected⟩ := manifest_roles_filled_once 0 answerHandler queued
  exact ⟨haccepted, ⟨manifest, hmanifest, htriggers, houtputs ⟨_, List.mem_singleton_self _, rfl⟩⟩,
    htwice, (hrejected (.inr htwice)).1⟩

end HandlerBundle
