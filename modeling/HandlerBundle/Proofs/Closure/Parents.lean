import HandlerBundle.Proofs.Closure.Compute

/-!
# Exclusion and the parents of modules

Whether a module is excluded is read off its name: an entry of the allow-list excludes the names
that it is equal to or begins in front of a dot, and no others, even if they begin with the same
letters. A module below an excluded one is therefore excluded, so no module of a closure has an
excluded parent, and a parent is missing from a closure only if it cannot be imported.

## Main results

* `Exclusion.excludes_iff_startsWith` — exclusion as a condition on the name.
* `Exclusion.excludes_cons_eq` — an entry does not matter for the names that it does not cover.
* `parent_of_mem_closure` — the parents of the modules of a closure.
* `Exclusion.excludes_by_dotted_beginning`
-/

namespace HandlerBundle

/-- The names that begin with an entry and a dot are those that continue it behind one. -/
theorem startsWith_append_dot_iff {entry name : String} :
    name.startsWith (entry ++ ".") = true ↔ ∃ rest, name = entry ++ "." ++ rest := by
  rw [String.startsWith_string_iff]
  constructor
  · rintro ⟨rest, hname⟩
    refine ⟨String.ofList rest, String.toList_injective ?_⟩
    rw [String.toList_append, String.toList_ofList, hname]
  · rintro ⟨rest, rfl⟩
    exact ⟨rest.toList, String.toList_append.symm⟩

/-- A name that goes on with anything but a dot does not begin with the entry and a dot. -/
theorem not_startsWith_append_dot {entry rest : String} (hdot : rest.toList.head? ≠ some '.') :
    (entry ++ rest).startsWith (entry ++ ".") = false := by
  rw [← Bool.not_eq_true, startsWith_append_dot_iff]
  rintro ⟨more, heq⟩
  have hrest : rest.toList = '.' :: more.toList := by
    have hlists := congrArg String.toList heq
    rw [String.toList_append, toList_append_dot] at hlists
    exact List.append_cancel_left hlists
  exact hdot (by rw [hrest, List.head?_cons])

namespace Exclusion

/-- **A module is excluded by how its name begins**: the name is empty, its first component belongs
to the standard library, or it is an entry or begins with one and a dot. -/
theorem excludes_iff_startsWith (ex : Exclusion) (name : String) :
    ex.excludes name = true ↔
      name = "" ∨ topName name ∈ standardModules ∨
        ∃ entry ∈ ex.entries, name = entry ∨ name.startsWith (entry ++ ".") = true := by
  simp only [excludes_iff, isStandardModule, List.contains_iff_mem, startsWith_append_dot_iff]

/-- An entry does not matter for a name that it is not equal to and does not begin in front of a
dot. -/
theorem excludes_cons_eq {entry name : String} (entries : List String) (hne : name ≠ entry)
    (hstart : name.startsWith (entry ++ ".") = false) :
    (mk (entry :: entries)).excludes name = (mk entries).excludes name := by
  rw [Bool.eq_iff_iff]
  simp only [excludes_iff_startsWith, List.mem_cons, exists_eq_or_imp]
  refine or_congr_right (or_congr_right (or_iff_right ?_))
  rintro (heq | hbegins)
  · exact hne heq
  · exact Bool.false_ne_true (hstart.symm.trans hbegins)

end Exclusion

section Parents

variable {h : Heap} {table : ModuleTable} {ex : Exclusion} {value : ObjectId}
  {rs : List ModuleRecord} {r : ModuleRecord}

/-- Where every module can be read, a value has a closure if it can be walked and does not refer to
the module that runs. -/
theorem exists_closure_of_isReadable {roots : List String} (hread : table.isReadable = true)
    (hroots : h.referencedModules ex value = .ok roots) (hrunning : runningModule ∉ roots) :
    ∃ rs, (closure h table ex value).records = .ok rs := by
  rcases closure_cases h table ex value with ⟨cause, hfails, -⟩ | ⟨roots', hroots', hcases⟩
  · cases hroots.symm.trans hfails
  obtain rfl := Except.ok.inj (hroots.symm.trans hroots')
  rcases hcases with ⟨hruns, -⟩ | ⟨-, hyields⟩
  · exact absurd hruns hrunning
  cases hrecords : (closure h table ex value).records with
  | ok rs => exact ⟨rs, rfl⟩
  | error e =>
    rw [hrecords] at hyields
    obtain ⟨name, -, -, hfaults⟩ := hyields.exists_faults fun _ => mem_reverse_sortNames
    exact absurd hfaults (ModuleTable.not_faults_of_isReadable hread)

/-- **No parent is missing because it is excluded.** The parent of a module of a closure is not
excluded, and if it can be imported, it is in the closure. -/
theorem parent_of_mem_closure (hrecords : (closure h table ex value).records = .ok rs)
    (hr : r ∈ rs) (hparent : parentName r.name ≠ "") :
    ex.excludes (parentName r.name) = false ∧
      ((table.spec? (parentName r.name)).isSome = true → parentName r.name ∈ rs.map (·.name)) := by
  obtain ⟨⟨roots, hroots, hleast⟩, -⟩ := isLeastClosure_of_closure_eq_ok hrecords
  obtain ⟨hreach, hex, hload⟩ := (hleast.mem_iff r).mp hr
  have hreachParent : table.Reaches ex roots (parentName r.name) :=
    .parent hreach hex hload hparent
  have hexParent := ex.excludes_parentName_eq_false hparent hex
  refine ⟨hexParent, fun hthere => ?_⟩
  obtain ⟨spec, hspec⟩ := Option.isSome_iff_exists.mp hthere
  cases hloads : ModuleTable.load (parentName r.name) spec with
  | error e =>
    exact absurd (.noRecord hspec hloads)
      (not_faults_of_closure_eq_ok hrecords hroots hreachParent hexParent e)
  | ok r' =>
    have hr' := hleast.isClosed.parent_mem r hr r' hparent ⟨spec, hspec, hloads⟩
    exact List.mem_map.mpr ⟨r', hr', ModuleTable.load_name hloads⟩

end Parents

/-- **Exclusion goes by dotted beginnings.** A module is excluded exactly if its name is empty, if
its first component belongs to the standard library, or if the name is an entry or begins with one
and a dot. So all modules below an excluded one are excluded, an entry does not matter for a name
that goes on with anything but a dot, and the parent of a module of a closure is missing from it
only if it cannot be imported. -/
theorem Exclusion.excludes_by_dotted_beginning (ex : Exclusion) :
    (∀ name, ex.excludes name = true ↔
      name = "" ∨ topName name ∈ standardModules ∨
        ∃ entry ∈ ex.entries, name = entry ∨ name.startsWith (entry ++ ".") = true) ∧
    (∀ name rest, name ≠ "" → ex.excludes name = true →
      ex.excludes (name ++ "." ++ rest) = true) ∧
    (∀ entry rest, rest ≠ "" → rest.toList.head? ≠ some '.' →
      (mk (entry :: ex.entries)).excludes (entry ++ rest) = ex.excludes (entry ++ rest)) ∧
    ∀ h table value rs, (closure h table ex value).records = .ok rs →
      ∀ r ∈ rs, parentName r.name ≠ "" →
        ex.excludes (parentName r.name) = false ∧
          ((table.spec? (parentName r.name)).isSome = true →
            parentName r.name ∈ rs.map (·.name)) := by
  refine ⟨ex.excludes_iff_startsWith, fun name rest hne hexcluded => ?_,
    fun entry rest hne hdot => ?_, fun h table value rs hrecords r hr hparent => ?_⟩
  · exact excludes_append_dot hne hexcluded rest
  · refine excludes_cons_eq ex.entries (fun heq => hne ?_) (not_startsWith_append_dot hdot)
    simpa using heq
  · exact parent_of_mem_closure hrecords hr hparent

/-- The usual allow-list excludes what is below one of its entries. What merely begins like an entry
stays in, and the closure of a module of a package holds the package. -/
theorem Exclusion.excludes_by_dotted_beginning_cartHeap :
    (standard.excludes "azure.functions" = true ∧
      standard.excludes "azure.functions.http" = true) ∧
    ("2".toList.head? ≠ some '.' ∧
      (mk ("shop" :: standard.entries)).excludes "shop2" = false) ∧
    ∃ rs, (closure cartHeap cyclicModules .standard 0).records = .ok rs ∧
      "shop.cart" ∈ rs.map (·.name) ∧ parentName "shop.cart" = "shop" ∧
      standard.excludes "shop" = false ∧ "shop" ∈ rs.map (·.name) := by
  obtain ⟨-, hbelow, hletters, hparents⟩ := standard.excludes_by_dotted_beginning
  have hentry : standard.excludes "azure.functions" = true := by decide +kernel
  have hname : "azure.functions" ++ "." ++ "http" = "azure.functions.http" := by decide +kernel
  have hother : standard.excludes "shop2" = false := by decide +kernel
  have hdot : "2".toList.head? ≠ some '.' := by decide
  have hparent : parentName "shop.cart" = "shop" := by decide +kernel
  have hthere : (cyclicModules.spec? "shop").isSome = true := by decide
  have hcart : standard.excludes "shop.cart" = false := by decide +kernel
  have hroots := referencedModules_cartHeap
  have hread : cyclicModules.isReadable = true := by decide +kernel
  obtain ⟨rs, hrecords⟩ := exists_closure_of_isReadable hread hroots (by decide)
  obtain ⟨⟨roots, hroots', hleast⟩, -⟩ := isLeastClosure_of_closure_eq_ok hrecords
  obtain rfl := Except.ok.inj (hroots.symm.trans hroots')
  have hmem : ⟨"shop.cart", false, Utf8.encode "import shop.price"⟩ ∈ rs :=
    (hleast.mem_iff _).mpr ⟨.root List.mem_cons_self, hcart, _, rfl, by decide +kernel⟩
  obtain ⟨hex, hfound⟩ := hparents cartHeap cyclicModules 0 rs hrecords _ hmem (by decide +kernel)
  refine ⟨⟨hentry, hname ▸ hbelow _ "http" (by decide +kernel) hentry⟩,
    ⟨hdot, (hletters "shop" "2" (by decide) hdot).trans hother⟩,
    rs, hrecords, List.mem_map_of_mem hmem, hparent, ?_, ?_⟩
  · rwa [hparent] at hex
  · rw [hparent] at hfound
    exact hfound hthere

end HandlerBundle
