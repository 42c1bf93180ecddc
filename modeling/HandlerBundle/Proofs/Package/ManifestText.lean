import HandlerBundle.Proofs.Json.Reader
import HandlerBundle.Proofs.Package.Completeness
import HandlerBundle.Proofs.Package.Entries
import HandlerBundle.Proofs.Text.Utf8

/-!
# Manifests that are read back

Decorators are applied from the last to the first, and each puts its attribute in front of the
others. So the attributes stand in the order of the source, and the manifest lists their fragments
in this order. Its text is read back to the same fragments, whatever is in them, as long as a
fragment is not too deep for the reader and its integers are not too long: two of the levels that
the reader goes down to are those of the manifest itself.

## Main definitions

* `decorated` — the attributes that a stack of decorators leaves on a handler.

## Main results

* `Manifest.decode_encode` — which manifests are read back.
* `manifest_read_back` — what is read from the manifest of a handler with a stack of decorators.
* `manifest_not_read_back_nestedList` — a fragment that is too deep.
-/

namespace HandlerBundle

/-! ### The text of a manifest -/

namespace Manifest

variable {m : Manifest} {depth : ℕ}

theorem isPlain_toJson (h : ∀ b ∈ m.bindings, (Json.object b).IsPlain) : m.toJson.IsPlain := by
  refine .object ?_ (show ["disabled", "bindings"].Nodup by decide)
  rw [List.forall_mem_cons, List.forall_mem_singleton]
  exact ⟨.bool _, .list (List.forall_mem_map.mpr h)⟩

/-- Two levels of a manifest are above its fragments. -/
theorem fits_toJson_iff :
    m.toJson.Fits (depth + 2) ↔ ∀ b ∈ m.bindings, (Json.object b).Fits depth := by
  have hswitch : (Json.bool m.disabled).Fits (depth + 1) := ⟨Nat.zero_le _, nofun⟩
  rw [toJson, Json.fits_object_iff, Json.fits_list_iff, List.map_cons, List.map_singleton,
    List.forall_mem_cons, List.forall_mem_singleton, and_iff_right hswitch, Json.fits_list_iff,
    List.forall_mem_map]

/-- A manifest is read from its value. -/
theorem ofJson_toJson (m : Manifest) : ofJson m.toJson = .ok m := by
  have hbindings : readBindings (.list (m.bindings.map .object)) = .ok m.bindings :=
    bindingsOf_eq_ok_iff.mpr rfl
  change ofMembers [("disabled", .bool m.disabled), ("bindings", .list (m.bindings.map .object))] =
    .ok m
  unfold ofMembers
  have hswitch : Json.member? [("disabled", .bool m.disabled),
      ("bindings", .list (m.bindings.map .object))] "disabled" = some (.bool m.disabled) := rfl
  have hlist : Json.member? [("disabled", .bool m.disabled),
      ("bindings", .list (m.bindings.map .object))] "bindings" =
        some (.list (m.bindings.map .object)) := rfl
  rw [hswitch, hlist]
  dsimp only
  rw [hbindings]
  rfl

/-- **Which manifests are read back.** A manifest without fractional numbers is read from its text,
unless one of its fragments is too much for the reader. -/
theorem decode_encode (h : ∀ b ∈ m.bindings, (Json.object b).IsPlain) :
    decode (Utf8.encode m.encode) =
      if ∀ b ∈ m.bindings, (Json.object b).Fits 198 then .ok m else .error [.notJson] := by
  have hplain := isPlain_toJson h
  have hread : (Utf8.decode (Utf8.encode m.encode)).toOption.bind (Json.read? depthLimit) =
      Json.read? (198 + 2) (m.toJson.pretty layout) := by
    rw [Utf8.decode_encode]
    rfl
  rw [decode, hread, Json.read?_pretty hplain]
  by_cases hfits : ∀ b ∈ m.bindings, (Json.object b).Fits 198
  · rw [if_pos (fits_toJson_iff.mpr hfits), if_pos hfits]
    dsimp only
    rw [hplain.collapse_eq, ofJson_toJson]
  · rw [if_neg fun h => hfits (fits_toJson_iff.mp h), if_neg hfits]

end Manifest

/-! ### Decorators -/

/-- The attributes that a stack of decorators leaves on a handler without any. -/
def decorated (stack : List Attribute) : List Attribute :=
  stack.foldr (fun a below => attach below [a]) []

/-- The attributes stand in the order of the decorators. -/
theorem decorated_eq (stack : List Attribute) : decorated stack = stack := by
  induction stack with
  | nil => rfl
  | cons a stack ih =>
    rw [decorated, List.foldr_cons, ← decorated, ih, attach, List.singleton_append]

/-- The stand-in for a missing result binding has no fragments. -/
theorem flatMap_fragments_resolve (handler : Descriptor) (attributes : List Attribute) :
    (resolve handler attributes).attributes.flatMap (·.fragments) =
      attributes.flatMap (·.fragments) := by
  by_cases hshape : handler.IsReproducible
  · rw [attributes_resolve _ hshape, completed]
    split_ifs
    · rfl
    · rw [List.flatMap_append]
      exact List.append_nil _
  · rw [resolve_eq_of_not_isReproducible _ hshape]

/-- Attributes whose fragments are objects have a manifest with these fragments as its bindings. -/
theorem exists_manifest_of_objects (handler : Descriptor) {attributes : List Attribute}
    (hobjects : ∀ fragment ∈ attributes.flatMap (·.fragments),
      ∃ members, fragment = .object members) :
    ∃ m, Manifest.ofAttributes (resolve handler attributes).attributes = .ok m ∧
      m.disabled = false ∧ m.bindings.map Json.object = attributes.flatMap (·.fragments) := by
  have hrange : attributes.flatMap (·.fragments) ∈ Set.range (List.map Json.object) := by
    rw [Set.range_list_map]
    intro fragment hfragment
    obtain ⟨members, hmembers⟩ := hobjects fragment hfragment
    exact ⟨members, hmembers.symm⟩
  obtain ⟨bindings, hbindings⟩ := hrange
  refine ⟨⟨false, bindings⟩, Manifest.ofAttributes_eq_ok_iff.mpr ⟨rfl, ?_⟩, rfl, hbindings⟩
  rw [flatMap_fragments_resolve, hbindings]

/-- **What is read from a manifest.** Take any handler with any stack of decorators, whose fragments
are objects without fractional numbers. The manifest of the resolved attributes is written and read.

If no fragment has more than 198 levels, and no integer in one has more characters than a numeral
may have, the manifest that is read is not disabled, and its bindings are the fragments in the order
of the decorators, each as it was. Otherwise the text is refused. -/
theorem manifest_read_back (handler : Descriptor) {stack : List Attribute}
    (hplain : ∀ a ∈ stack, ∀ fragment ∈ a.fragments,
      fragment.IsPlain ∧ ∃ members, fragment = .object members) :
    let fragments := stack.flatMap (·.fragments)
    let isReadable := ∀ fragment ∈ fragments, fragment.levels ≤ 198 ∧
      ∀ n ∈ fragment.integers, (Json.writeInt n).length ≤ integerDigitLimit
    ∃ manifest,
      Manifest.ofAttributes (resolve handler (decorated stack)).attributes = .ok manifest ∧
      (isReadable → ∃ back, Manifest.decode (Utf8.encode manifest.encode) = .ok back ∧
        back.disabled = false ∧ back.bindings.map Json.object = fragments) ∧
      (¬isReadable → Manifest.decode (Utf8.encode manifest.encode) = .error [.notJson]) := by
  intro fragments isReadable
  rw [decorated_eq]
  have hplain' : ∀ fragment ∈ fragments,
      fragment.IsPlain ∧ ∃ members, fragment = .object members := by
    intro fragment hmem
    obtain ⟨a, ha, hfragment⟩ := List.mem_flatMap.mp hmem
    exact hplain a ha fragment hfragment
  obtain ⟨manifest, hmanifest, henabled, hbindings⟩ :=
    exists_manifest_of_objects handler fun fragment hmem => (hplain' fragment hmem).2
  have hobjects : ∀ {P : Json → Prop}, (∀ b ∈ manifest.bindings, P (.object b)) ↔
      ∀ fragment ∈ fragments, P fragment := by
    rw [show fragments = _ from hbindings.symm]
    exact List.forall_mem_map.symm
  have hfits : (∀ b ∈ manifest.bindings, (Json.object b).Fits 198) ↔ isReadable := hobjects
  have hreading : Manifest.decode (Utf8.encode manifest.encode) = _ :=
    Manifest.decode_encode <| hobjects.mpr fun fragment hmem => (hplain' fragment hmem).1
  refine ⟨manifest, hmanifest, fun hreadable => ?_, fun hlong => ?_⟩
  · rw [if_pos (hfits.mpr hreadable)] at hreading
    exact ⟨manifest, hreading, henabled, hbindings⟩
  · rwa [if_neg fun h => hlong (hfits.mp h)] at hreading

/-- An attribute without a role, with a fragment of its own. -/
def customAttribute (fragment : Json) : Attribute where
  className := "Custom"
  role := .binding
  fields := []
  check _ := []
  fragments := [fragment]
  build := .idle

/-- A fragment with marks in a text, a negative integer, and an object without members. -/
def notedFragment : Json :=
  .object [("note", .text "say \"no\"\n"), ("counts", .list [.int (-7), .null, .object []])]

/-- The two fragments are read back in the order of the decorators. -/
theorem manifest_read_back_notedFragment :
    let stack := [customAttribute notedFragment, customAttribute (.object [])]
    (∀ a ∈ stack, ∀ fragment ∈ a.fragments,
      fragment.IsPlain ∧ ∃ members, fragment = .object members) ∧
    ∃ manifest back,
      Manifest.ofAttributes (resolve answerHandler (decorated stack)).attributes = .ok manifest ∧
      Manifest.decode (Utf8.encode manifest.encode) = .ok back ∧ back.disabled = false ∧
      back.bindings.map Json.object = [notedFragment, .object []] := by
  intro stack
  have hempty : (Json.object []).IsPlain := .object (List.forall_mem_nil _) List.nodup_nil
  have hnoted : notedFragment.IsPlain := by
    refine .object ?_ (show ["note", "counts"].Nodup by decide)
    rw [List.forall_mem_cons, List.forall_mem_singleton]
    refine ⟨.text _, .list ?_⟩
    rw [List.forall_mem_cons, List.forall_mem_cons, List.forall_mem_singleton]
    exact ⟨.int _, .null, hempty⟩
  have hplain : ∀ a ∈ stack, ∀ fragment ∈ a.fragments,
      fragment.IsPlain ∧ ∃ members, fragment = .object members := by
    rw [List.forall_mem_cons, List.forall_mem_singleton]
    exact ⟨List.forall_mem_singleton.mpr ⟨hnoted, _, rfl⟩,
      List.forall_mem_singleton.mpr ⟨hempty, _, rfl⟩⟩
  obtain ⟨manifest, hmanifest, hread, -⟩ := manifest_read_back answerHandler hplain
  obtain ⟨back, hback⟩ := hread (by decide)
  exact ⟨hplain, manifest, back, hmanifest, hback⟩

/-- A list in a list, and so on, and an empty one in the last. -/
def nestedList : ℕ → Json
  | 0 => .list []
  | n + 1 => .list [nestedList n]

theorem levels_nestedList (n : ℕ) : (nestedList n).levels = n := by
  induction n with
  | zero => rfl
  | succ n ih =>
    rw [nestedList, Json.levels, Json.levelsOfItems, ih, Json.levelsOfItems]
    exact Nat.max_zero _

theorem isPlain_nestedList (n : ℕ) : (nestedList n).IsPlain := by
  induction n with
  | zero => exact .list (List.forall_mem_nil _)
  | succ n ih => exact .list (List.forall_mem_singleton.mpr ih)

/-- A fragment with a list that is too deep is written, but the manifest is not read back. -/
theorem manifest_not_read_back_nestedList :
    ¬∀ (handler : Descriptor) (stack : List Attribute),
      (∀ a ∈ stack, ∀ fragment ∈ a.fragments,
        fragment.IsPlain ∧ ∃ members, fragment = .object members) →
      ∃ manifest back,
        Manifest.ofAttributes (resolve handler (decorated stack)).attributes = .ok manifest ∧
        Manifest.decode (Utf8.encode manifest.encode) = .ok back ∧ back.disabled = false ∧
        back.bindings.map Json.object = stack.flatMap (·.fragments) := by
  intro hall
  have hfragment : (Json.object [("a", nestedList 205)]).IsPlain :=
    .object (List.forall_mem_singleton.mpr (isPlain_nestedList 205)) (List.nodup_singleton _)
  obtain ⟨manifest, back, hmanifest, hreading, -⟩ := hall answerHandler
    [customAttribute (.object [("a", nestedList 205)])]
    (List.forall_mem_singleton.mpr (List.forall_mem_singleton.mpr ⟨hfragment, _, rfl⟩))
  have hbindings : manifest.bindings = [[("a", nestedList 205)]] := by
    have hobjects := (Manifest.ofAttributes_eq_ok_iff.mp hmanifest).2
    rw [flatMap_fragments_resolve, decorated_eq] at hobjects
    obtain ⟨members, hmembers, hobject⟩ := List.map_eq_singleton_iff.mp hobjects.symm
    rw [hmembers, Json.object.inj hobject]
  rw [Manifest.decode_encode, hbindings, if_neg] at hreading
  · cases hreading
  · intro hfits
    have hlevels := (hfits [("a", nestedList 205)] (List.mem_singleton_self _)).1
    rw [Json.levels, Json.levelsOfMembers, levels_nestedList] at hlevels
    exact absurd ((Nat.le_max_left _ _).trans hlevels) (by decide)
  · rw [hbindings]
    exact List.forall_mem_singleton.mpr hfragment

end HandlerBundle
