import HandlerBundle.Package.Manifest
import HandlerBundle.Proofs.Binding.Plan
import HandlerBundle.Proofs.Results

/-!
# Manifest and plan

Of a handler with shipped bindings only, the host reads in the manifest which inputs there are, and
the generated loader goes by the plan for the parameters. Both come from the same attributes, but
apart from each other. The manifest of an accepted handler has one input for every binding that
takes one, in their order and under the name that the binding is given, and the plan leaves to
attributes those of these names that the handler has as parameters.

So manifest and plan agree but for two cases: an optional input that the handler has no parameter
for is in the manifest all the same, and a name that is given to several bindings is there several
times.

## Main definitions

* `ShippedBinding.inputName?` — the name under which a binding gives an input.
* `Manifest.inputNames` — the names of the inputs in a manifest.
* `BindingSet.attributeNames` — the parameters that a plan leaves to attributes.

## Main results

* `manifest_inputs_agree` — the inputs in the manifest and the parameters left to attributes.
-/

namespace HandlerBundle

/-! ### Inputs of shipped bindings -/

namespace ShippedBinding

/-- The name under which a binding gives an input, if it gives one. -/
def inputName? : ShippedBinding → Option String
  | .httpTrigger _ _ _ name | .timerTrigger _ _ name | .queueTrigger _ _ name
  | .blobInput _ name _ _ => some name
  | .queueResult .. => none

/-- Whether a handler may do without the parameter for the input. -/
def isOptional : ShippedBinding → Bool
  | .blobInput _ _ _ optional => optional
  | _ => false

end ShippedBinding

/-- A shipped attribute: a shipped binding, or the stand-in for a missing result binding. -/
def shippedAttribute : Option ShippedBinding → Attribute
  | some b => b.toAttribute
  | none => noResultAttribute

/-- The names under which shipped attributes give inputs, in their order. -/
def inputNames (bs : List (Option ShippedBinding)) : List String :=
  bs.filterMap fun b => b.bind ShippedBinding.inputName?

variable {handler : Descriptor} {name : String}

theorem Descriptor.isSome_parameter?_iff :
    (handler.parameter? name).isSome = true ↔ name ∈ handler.names := by
  rw [Descriptor.parameter?, List.find?_isSome, Descriptor.names, List.mem_map]
  simp only [beq_iff_eq]

/-- The check of a parameter claims it where the handler has it, and else unless it is optional. -/
theorem claimed_checkNamed_iff {optional : Bool} {wanted : String} {allowed : List Annotation} :
    (checkNamed optional wanted allowed handler).claimed = some name ↔
      wanted = name ∧ (optional = true → name ∈ handler.names) := by
  rw [← Descriptor.isSome_parameter?_iff]
  by_cases hname : wanted = name
  · subst hname
    rw [checkNamed]
    cases handler.parameter? wanted with
    | some p => simp only [Option.isSome_some]; split_ifs <;> simp
    | none => cases optional <;> simp
  · rw [checkNamed]
    split
    · split_ifs <;> simp [hname]
    · split_ifs <;> simp [hname]

/-- The check of a parameter that must be there finds something wrong where it is not. -/
theorem mem_names_of_messages_checkNamed {wanted : String} {allowed : List Annotation}
    (hpass : (checkNamed false wanted allowed handler).messages = []) : wanted ∈ handler.names := by
  rw [← Descriptor.isSome_parameter?_iff]
  rw [checkNamed] at hpass
  cases hp : handler.parameter? wanted with
  | some p => rfl
  | none =>
    rw [hp] at hpass
    cases hpass

theorem claimed_checkResult (allowed : List Annotation) (handler : Descriptor) :
    (checkResult allowed handler).claimed = none := by
  rw [checkResult]
  split_ifs <;> rfl

/-- A shipped binding claims the name of its input where the handler has it, and else unless it is
optional. -/
theorem ShippedBinding.exists_claimed_iff {b : ShippedBinding} :
    (∃ r ∈ b.check handler, r.claimed = some name) ↔
      b.inputName? = some name ∧ (b.isOptional = true → name ∈ handler.names) := by
  cases b <;> simp [check, checkParameter, inputName?, isOptional, claimed_checkNamed_iff,
    claimed_checkResult]

/-- A shipped binding that finds nothing wrong has its input among the parameters, unless it is
optional. -/
theorem ShippedBinding.mem_names_of_passes {b : ShippedBinding}
    (hpass : ∀ r ∈ b.check handler, r.messages = []) (hname : b.inputName? = some name)
    (hoptional : b.isOptional = false) : name ∈ handler.names := by
  cases b with
  | httpTrigger | timerTrigger | queueTrigger =>
    obtain rfl := Option.some.inj hname
    exact mem_names_of_messages_checkNamed (hpass _ List.mem_cons_self)
  | queueResult => cases hname
  | blobInput path wanted connection optional =>
    obtain rfl := Option.some.inj hname
    obtain rfl : optional = false := hoptional
    exact mem_names_of_messages_checkNamed (hpass _ List.mem_cons_self)

/-! ### The manifest -/

/-- The name of an input, if the fragment of a manifest declares one. -/
def inputOf? (members : List (String × Json)) : Option String :=
  match Json.member? members "direction", Json.member? members "name" with
  | some (.text "in"), some (.text name) => some name
  | _, _ => none

/-- The names of the inputs in a manifest, in its order. -/
def Manifest.inputNames (m : Manifest) : List String :=
  m.bindings.filterMap inputOf?

/-- The fragments of an attribute that are objects. -/
def Attribute.objects (a : Attribute) : List (List (String × Json)) :=
  a.fragments.filterMap fun fragment =>
    match fragment with
    | .object ms => some ms
    | _ => none

/-- Objects are not complained about, and nothing else is let pass. -/
theorem Manifest.bindingComplaints_eq_nil_iff {vs : List Json} {place : Nat} :
    bindingComplaints place vs = [] ↔
      ∃ mss : List (List (String × Json)), vs = mss.map Json.object := by
  induction vs generalizing place with
  | nil => exact ⟨fun _ => ⟨[], rfl⟩, fun _ => rfl⟩
  | cons v vs ih =>
    cases v with
    | object ms =>
      rw [bindingComplaints, ih]
      constructor
      · rintro ⟨mss, rfl⟩
        exact ⟨ms :: mss, rfl⟩
      · rintro ⟨mss, hmss⟩
        obtain ⟨_, mss', -, -, htail⟩ := List.map_eq_cons_iff.mp hmss.symm
        exact ⟨mss', htail.symm⟩
    | null | bool _ | int _ | float _ | text _ | list _ =>
      refine ⟨nofun, fun ⟨mss, hmss⟩ => ?_⟩
      obtain ⟨_, _, -, hhead, -⟩ := List.map_eq_cons_iff.mp hmss.symm
      cases hhead

/-- Items are read as bindings if they are all objects. -/
theorem Manifest.bindingsOf_eq_ok_iff {vs : List Json} {mss : List (List (String × Json))} :
    bindingsOf vs = .ok mss ↔ vs = mss.map Json.object := by
  have hread : ∀ mss : List (List (String × Json)), bindingsOf (mss.map Json.object) = .ok mss := by
    intro mss
    rw [bindingsOf, bindingComplaints_eq_nil_iff.mpr ⟨mss, rfl⟩]
    simp [List.filterMap_map]
  constructor
  · intro hvs
    by_cases hcomplaints : bindingComplaints 0 vs = []
    · obtain ⟨mss', rfl⟩ := bindingComplaints_eq_nil_iff.mp hcomplaints
      rw [Except.ok.inj ((hread mss').symm.trans hvs)]
    · rw [bindingsOf, if_neg (mt List.isEmpty_iff.mp hcomplaints)] at hvs
      cases hvs
  · rintro rfl
    exact hread mss

/-- The manifest of attributes, if they have one, holds their fragments, which are objects. -/
theorem Manifest.ofAttributes_eq_ok_iff {attributes : List Attribute} {m : Manifest} :
    ofAttributes attributes = .ok m ↔
      m.disabled = false ∧ attributes.flatMap (·.fragments) = m.bindings.map Json.object := by
  rw [ofAttributes, map_eq_ok_iff]
  simp only [bindingsOf_eq_ok_iff]
  constructor
  · rintro ⟨bindings, hbindings, rfl⟩
    exact ⟨rfl, hbindings⟩
  · rintro ⟨hdisabled, hbindings⟩
    exact ⟨m.bindings, hbindings, hdisabled ▸ rfl⟩

theorem Manifest.bindings_eq {attributes : List Attribute} {m : Manifest}
    (hm : ofAttributes attributes = .ok m) :
    m.bindings = attributes.flatMap Attribute.objects := by
  have hfragments := congrArg (List.filterMap fun fragment =>
    match fragment with
    | .object ms => some ms
    | _ => none) (ofAttributes_eq_ok_iff.mp hm).2
  rw [List.filterMap_flatMap] at hfragments
  exact (hfragments.trans (by simp [List.filterMap_map])).symm

theorem Manifest.inputNames_eq {attributes : List Attribute} {m : Manifest}
    (hm : ofAttributes attributes = .ok m) :
    m.inputNames = attributes.flatMap fun a => a.objects.filterMap inputOf? := by
  rw [inputNames, bindings_eq hm, List.filterMap_flatMap]

/-- The fragments of a shipped attribute are objects. -/
theorem fragments_shippedAttribute (b : Option ShippedBinding) :
    (shippedAttribute b).fragments = (shippedAttribute b).objects.map Json.object := by
  rcases b with _ | ⟨_, route⟩ | _
  · rfl
  · cases route <;> rfl
  all_goals rfl

/-- Shipped attributes have a manifest. -/
theorem exists_ofAttributes_shipped (bs : List (Option ShippedBinding)) :
    ∃ m, Manifest.ofAttributes (bs.map shippedAttribute) = .ok m := by
  refine ⟨⟨false, (bs.map shippedAttribute).flatMap Attribute.objects⟩,
    Manifest.ofAttributes_eq_ok_iff.mpr ⟨rfl, ?_⟩⟩
  rw [List.map_flatMap]
  refine List.flatMap_congr fun a ha => ?_
  obtain ⟨b, -, rfl⟩ := List.mem_map.mp ha
  exact fragments_shippedAttribute b

/-- A shipped binding declares its input in the manifest, and no other. -/
theorem ShippedBinding.inputs_objects (b : ShippedBinding) :
    b.toAttribute.objects.filterMap inputOf? = b.inputName?.toList := by
  cases b with
  | httpTrigger _ route => cases route <;> rfl
  | _ => rfl

/-- The shipped attributes declare their inputs in the manifest in their order, whether or not the
handler has parameters for them. -/
theorem inputNames_ofAttributes_shipped {bs : List (Option ShippedBinding)} {m : Manifest}
    (hm : Manifest.ofAttributes (bs.map shippedAttribute) = .ok m) :
    m.inputNames = inputNames bs := by
  have hone : ∀ b : Option ShippedBinding, (shippedAttribute b).objects.filterMap inputOf? =
      (b.bind ShippedBinding.inputName?).toList := by
    intro b
    cases b with
    | none => rfl
    | some b => exact b.inputs_objects
  rw [Manifest.inputNames_eq hm, List.flatMap_map, inputNames, List.filterMap_eq_flatMap_toList]
  exact List.flatMap_congr fun b _ => hone b

/-- The stand-in for a missing result binding gives no input. -/
theorem exists_completed_eq (bs : List (Option ShippedBinding)) :
    ∃ bs', completed (bs.map shippedAttribute) = bs'.map shippedAttribute ∧ bs ⊆ bs' ∧
      inputNames bs' = inputNames bs := by
  rw [completed]
  split_ifs
  · exact ⟨bs, rfl, List.Subset.refl _, rfl⟩
  · refine ⟨bs ++ [none], ?_, List.subset_append_left _ _, ?_⟩
    · rw [List.map_append]
      rfl
    · rw [inputNames, List.filterMap_append]
      exact List.append_nil _

theorem mem_inputNames_iff {bs : List (Option ShippedBinding)} :
    name ∈ inputNames bs ↔ ∃ b, some b ∈ bs ∧ b.inputName? = some name := by
  simp only [inputNames, List.mem_filterMap, Option.bind_eq_some_iff]
  constructor
  · rintro ⟨_, hb, b, rfl, hname⟩
    exact ⟨b, hb, hname⟩
  · rintro ⟨b, hb, hname⟩
    exact ⟨some b, hb, b, rfl, hname⟩

/-! ### The plan -/

namespace BindingSet

/-- The parameters that the plan leaves to attributes. -/
def attributeNames (set : BindingSet) : List String :=
  (set.plan.filter fun entry => entry.2 == .byAttribute).map Prod.fst

end BindingSet

/-- A plan leaves to attributes the parameters that are claimed, each once. -/
theorem attributeNames_planOf {set : BindingSet} {claimed : List String}
    (hplan : set.plan = planOf handler claimed) :
    set.attributeNames.Nodup ∧
      ∀ name, name ∈ set.attributeNames ↔ name ∈ handler.names ∧ name ∈ claimed := by
  obtain ⟨hnodup, hmem⟩ := foldl_addName handler.names [] List.nodup_nil
  have hnames : set.attributeNames =
      (handler.names.foldl (fun done name => if done.contains name then done else done ++ [name])
        []).filter fun name => bindingOf claimed handler.logParameter? name == .byAttribute := by
    rw [BindingSet.attributeNames, hplan, planOf, List.filter_map, List.map_map]
    exact List.map_id _
  rw [hnames]
  refine ⟨hnodup.filter _, fun name => ?_⟩
  rw [List.mem_filter, hmem, beq_iff_eq, bindingOf_eq_byAttribute_iff]
  simp only [List.not_mem_nil, false_or]

/-- Of an accepted handler, the plan leaves to attributes the parameters that a check claims. -/
theorem attributeNames_resolve {attributes : List Attribute}
    (haccepted : (resolve handler attributes).errors = []) :
    (resolve handler attributes).attributeNames.Nodup ∧
      ∀ name, name ∈ (resolve handler attributes).attributeNames ↔
        name ∈ handler.names ∧ IsClaimed handler (completed attributes) name := by
  obtain ⟨hshape, hroles, -, -⟩ := (errors_resolve_eq_nil_iff handler attributes).mp haccepted
  obtain ⟨hnodup, hmem⟩ := attributeNames_planOf (plan_resolve hshape hroles)
  exact ⟨hnodup, fun name => by rw [hmem, mem_claimedNames_iff]⟩

/-- The parameters that shipped attributes claim are those that they give inputs for. -/
theorem isClaimed_shipped_iff {bs : List (Option ShippedBinding)} (hname : name ∈ handler.names) :
    IsClaimed handler (bs.map shippedAttribute) name ↔ name ∈ inputNames bs := by
  rw [mem_inputNames_iff, IsClaimed]
  constructor
  · rintro ⟨a, ha, r, hr, hclaimed⟩
    obtain ⟨b, hb, rfl⟩ := List.mem_map.mp ha
    cases b with
    | none =>
      obtain rfl := List.mem_singleton.mp hr
      rw [claimed_checkResult] at hclaimed
      cases hclaimed
    | some b => exact ⟨b, hb, (ShippedBinding.exists_claimed_iff.mp ⟨r, hr, hclaimed⟩).1⟩
  · rintro ⟨b, hb, hinput⟩
    exact ⟨b.toAttribute, List.mem_map.mpr ⟨some b, hb, rfl⟩,
      ShippedBinding.exists_claimed_iff.mpr ⟨hinput, fun _ => hname⟩⟩

/-- **Manifest and plan.** An accepted handler with shipped attributes has a manifest, with one
input for every binding that takes one, in their order and under its name. The plan leaves to
attributes, each once, those of these names that are parameters, and only the name of an optional
input can be none. So if the handler has a parameter for every optional input, and no two bindings
have one name, then the inputs in the manifest are exactly the parameters left to attributes, each
once. -/
theorem manifest_inputs_agree (handler : Descriptor) (bs : List (Option ShippedBinding))
    (haccepted : (resolve handler (bs.map shippedAttribute)).errors = []) :
    let set := resolve handler (bs.map shippedAttribute)
    ∃ manifest, Manifest.ofAttributes set.attributes = .ok manifest ∧
    let inputs := manifest.inputNames
    inputs = inputNames bs ∧ set.attributeNames.Nodup ∧
    (∀ name, name ∈ set.attributeNames ↔ name ∈ inputs ∧ name ∈ handler.names) ∧
    (∀ b name, some b ∈ bs → b.inputName? = some name → name ∉ handler.names →
      b.isOptional = true) ∧
    ((∀ b name, some b ∈ bs → b.inputName? = some name → b.isOptional = true →
        name ∈ handler.names) →
      inputs.Nodup → inputs.Perm set.attributeNames) := by
  intro set
  obtain ⟨hshape, -, hpass, -⟩ := (errors_resolve_eq_nil_iff _ _).mp haccepted
  obtain ⟨hnodup, hmem⟩ := attributeNames_resolve haccepted
  obtain ⟨bs', hcompleted, hsub, hsame⟩ := exists_completed_eq bs
  have hattributes : set.attributes = bs'.map shippedAttribute :=
    (attributes_resolve _ hshape).trans hcompleted
  obtain ⟨manifest, hmanifest⟩ := exists_ofAttributes_shipped bs'
  refine ⟨manifest, hattributes ▸ hmanifest, ?_⟩
  intro inputs
  have hinputs : inputs = inputNames bs :=
    (inputNames_ofAttributes_shipped hmanifest).trans hsame
  have hbound : ∀ name, name ∈ set.attributeNames ↔ name ∈ inputs ∧ name ∈ handler.names := by
    intro name
    rw [hmem, hinputs, hcompleted, ← hsame, and_comm]
    exact and_congr_left fun hname => isClaimed_shipped_iff hname
  have hrequired : ∀ b name, some b ∈ bs → b.inputName? = some name → b.isOptional = false →
      name ∈ handler.names := by
    intro b name hb hname hoptional
    refine ShippedBinding.mem_names_of_passes (fun r hr => ?_) hname hoptional
    exact hpass _ (hcompleted ▸ List.mem_map_of_mem (hsub hb)) r hr
  refine ⟨hinputs, hnodup, hbound, fun b name hb hname hnone => ?_, fun hoptional honce => ?_⟩
  · by_contra hmust
    exact hnone (hrequired b name hb hname (eq_false_of_ne_true hmust))
  · rw [List.perm_ext_iff_of_nodup honce hnodup]
    intro name
    rw [hbound, iff_self_and, hinputs, mem_inputNames_iff]
    rintro ⟨b, hb, hname⟩
    cases hopt : b.isOptional with
    | true => exact hoptional b name hb hname hopt
    | false => exact hrequired b name hb hname hopt

/-- A handler that takes a message, and a blob if there is one. -/
def archiveHandler : Descriptor where
  scope := "pkg.mod"
  name := "archive"
  parameters := [⟨"message", ShippedBinding.ofKnown .str⟩, ⟨"blob", ShippedBinding.ofKnown .bytes⟩]
  result := Annotation.noneType
  shapeErrors := []

/-- A queue and a blob that a handler may do without, under the given names. -/
def queueAndBlob (message blob : String) : List (Option ShippedBinding) :=
  [some (.queueTrigger "jobs" ShippedBinding.defaultConnection message),
    some (.blobInput "archive/{id}" blob ShippedBinding.defaultConnection true)]

/-- Manifest and plan agree on the handler that has parameters for both. -/
theorem manifest_inputs_agree_archiveHandler :
    let set := resolve archiveHandler ((queueAndBlob "message" "blob").map shippedAttribute)
    set.errors = [] ∧ ∃ manifest, Manifest.ofAttributes set.attributes = .ok manifest ∧
      manifest.inputNames.Perm set.attributeNames := by
  intro set
  have haccepted : set.errors = [] := List.isEmpty_iff.mp (by decide +kernel)
  obtain ⟨manifest, hmanifest, hinputs, -, -, -, hagree⟩ :=
    manifest_inputs_agree archiveHandler _ haccepted
  refine ⟨haccepted, manifest, hmanifest, hagree (fun b name hb hname _ => ?_) ?_⟩
  · have hmem : name ∈ inputNames (queueAndBlob "message" "blob") :=
      mem_inputNames_iff.mpr ⟨b, hb, hname⟩
    exact hmem
  · rw [hinputs]
    decide +kernel

/-- A handler that takes no more than a message. -/
def messageHandler : Descriptor where
  scope := "pkg.mod"
  name := "archive"
  parameters := [⟨"message", ShippedBinding.ofKnown .str⟩]
  result := Annotation.noneType
  shapeErrors := []

/-- A handler without a parameter for the optional blob is accepted, and so is one with a single
parameter for both bindings, though the manifest has one more input than the plan. -/
theorem manifest_inputs_differ_messageHandler :
    (let set := resolve messageHandler ((queueAndBlob "message" "blob").map shippedAttribute)
    set.errors = [] ∧ set.attributeNames = ["message"] ∧
      (Manifest.ofAttributes set.attributes).map Manifest.inputNames =
        .ok ["message", "blob"]) ∧
    let set := resolve messageHandler ((queueAndBlob "message" "message").map shippedAttribute)
    set.errors = [] ∧ set.attributeNames = ["message"] ∧
      (Manifest.ofAttributes set.attributes).map Manifest.inputNames =
        .ok ["message", "message"] := by
  refine ⟨⟨List.isEmpty_iff.mp ?_, ?_, ?_⟩, List.isEmpty_iff.mp ?_, ?_, ?_⟩ <;> decide +kernel

end HandlerBundle
