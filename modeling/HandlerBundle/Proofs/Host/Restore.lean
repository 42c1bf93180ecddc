import HandlerBundle.Host.Restore
import HandlerBundle.Proofs.Closure.Capture

/-!
# Captured modules on a host

The archive of a captured value holds its closure, record by record. A host that has read it finds
exactly the modules of the closure, each with its source. Two values that note the same modules come
with the same archive, in whatever order the modules are noted.

## Main results

* `Finder.record?_eq_some_iff` — the record that a finder has for a name.
* `closure_records_congr` — the closure depends on no more than which modules are noted.
* `capture_restored` — what a host finds of a captured value.
-/

namespace HandlerBundle

variable {h h' : Heap} {table : ModuleTable} {ex : Exclusion} {value value' : ObjectId}
  {rs : List ModuleRecord}

/-! ### Finders -/

namespace Finder

variable {f : Finder} {place name : String} {r : ModuleRecord}

/-- If no two records have the same name, a finder has the record of each name. -/
theorem record?_eq_some_iff (hnodup : (f.records.map (·.name)).Nodup) :
    f.record? name = some r ↔ r ∈ f.records ∧ r.name = name := by
  have hmem : ∀ {r}, f.record? name = some r → r ∈ f.records ∧ r.name = name := by
    intro r hr
    have hname := List.find?_some hr
    exact ⟨List.mem_reverse.mp (List.mem_of_find?_eq_some hr), beq_iff_eq.mp hname⟩
  refine ⟨hmem, ?_⟩
  rintro ⟨hr, rfl⟩
  have hsome : (f.record? r.name).isSome = true :=
    List.find?_isSome.mpr ⟨r, List.mem_reverse.mpr hr, beq_self_eq_true _⟩
  obtain ⟨r', hr'⟩ := Option.isSome_iff_exists.mp hsome
  obtain ⟨hmem', hname⟩ := hmem hr'
  rwa [List.inj_on_of_nodup_map hnodup hmem' hr hname] at hr'

/-- A finder finds the names of its records. -/
theorem isSome_find?_iff :
    (f.find? place name).isSome = true ↔ name ∈ f.records.map (·.name) := by
  rw [find?, Option.isSome_map, record?, List.find?_isSome, List.mem_map]
  simp only [List.mem_reverse, beq_iff_eq]

end Finder

/-! ### Closures -/

/-- A closure is in the order of its names. -/
theorem pairwise_name_of_closure_eq_ok (hrecords : (closure h table ex value).records = .ok rs) :
    rs.Pairwise fun a b => a.name < b.name := by
  obtain ⟨⟨_, _, hleast⟩, -⟩ := isLeastClosure_of_closure_eq_ok hrecords
  exact hleast.sorted

/-- The archive of a closure holds the records in their order. -/
theorem encodeSorted_eq_encode (hsorted : rs.Pairwise fun a b => a.name < b.name) :
    Archive.encodeSorted rs = Archive.encode rs := by
  rw [Archive.encodeSorted, List.mergeSort_of_pairwise]
  exact hsorted.imp fun hlt => decide_eq_true hlt.le

/-- Values that note the same modules have the same closure. -/
theorem closure_records_congr {roots roots' : List String}
    (hroots : h.referencedModules ex value = .ok roots)
    (hroots' : h'.referencedModules ex value' = .ok roots') (hsame : ∀ m, m ∈ roots ↔ m ∈ roots')
    (hrecords : (closure h table ex value).records = .ok rs) :
    (closure h' table ex value').records = .ok rs := by
  have hrefused := (isLeastClosure_of_closure_eq_ok hrecords).2
  have hrunning : runningModule ∉ roots := fun hrunning => hrefused (.running hroots hrunning)
  have hrunning' : runningModule ∉ roots' := fun hmem => hrunning ((hsame _).mpr hmem)
  simp only [closure, hroots] at hrecords
  simp only [closure, hroots']
  have hyields : table.Yields ex (sortNames roots).reverse (table.closeOver ex roots).records :=
    yields_closeOver hrunning
  rw [hrecords] at hyields
  exact hyields.eq_ok_of_eq_ok (fun _ => mem_reverse_sortNames)
    (fun m => mem_reverse_sortNames.trans (hsame m).symm) (yields_closeOver hrunning')

/-! ### From a capture to a host -/

/-- **What a host finds of a captured value.** The archive is read back as the closure, and the
names that come with it are those of the closure, in strictly increasing order. A finder with these
records finds exactly these names, each with the flag and the source of its record. Two captured
values that note the same modules, in whatever order, have the same archive. -/
theorem capture_restored (h : Heap) (table : ModuleTable) (ex : Exclusion) (value : ObjectId)
    (w v : Workspace) (captured : CapturedValue)
    (hcapture : (capture h table ex value).run.run w = (.ok captured, v)) :
    (∃ rs, (closure h table ex value).records = .ok rs ∧
      Archive.decode captured.archive = .ok rs ∧
      captured.modules = rs.map (·.name) ∧ captured.modules.Pairwise (· < ·) ∧
      (∀ directory place name, ((Finder.mk directory rs).find? place name).isSome = true ↔
        name ∈ captured.modules) ∧
      ∀ r ∈ rs, ∀ directory place, (Finder.mk directory rs).find? place r.name =
        some ⟨r.name, "/".intercalate (place :: directory ++ [archiveFile, r.name]), r.isPackage,
          r.source⟩) ∧
    ∀ (h' : Heap) (value' : ObjectId) (w' v' : Workspace) (captured' : CapturedValue)
      (roots roots' : List String),
      (capture h' table ex value').run.run w' = (.ok captured', v') →
      h.referencedModules ex value = .ok roots → h'.referencedModules ex value' = .ok roots' →
      (∀ m, m ∈ roots ↔ m ∈ roots') → captured.archive = captured'.archive := by
  have hresult : captureResult h table ex value = .ok captured := by
    rw [← capture_result w, hcapture]
  obtain ⟨rs, hrecords, -, harchive, hmodules⟩ := captureResult_eq_ok_iff.mp hresult
  have hsorted := pairwise_name_of_closure_eq_ok hrecords
  have hnames : (rs.map (·.name)).Pairwise (· < ·) := List.pairwise_map.mpr hsorted
  constructor
  · refine ⟨rs, hrecords, ?_, hmodules, hmodules ▸ hnames, fun directory place name => ?_, ?_⟩
    · rw [encodeSorted_eq_encode hsorted] at harchive
      exact Archive.decode_eq_ok_of_encode_eq_ok harchive
    · rw [hmodules]
      exact Finder.isSome_find?_iff
    · intro r hr directory place
      have hrecord : (Finder.mk directory rs).record? r.name = some r :=
        (Finder.record?_eq_some_iff hnames.nodup).mpr ⟨hr, rfl⟩
      rw [Finder.find?, hrecord]
      rfl
  · intro h' value' w' v' captured' roots roots' hcapture' hroots hroots' hsame
    have hresult' : captureResult h' table ex value' = .ok captured' := by
      rw [← capture_result w', hcapture']
    obtain ⟨rs', hrecords', -, harchive', -⟩ := captureResult_eq_ok_iff.mp hresult'
    have hrecords'' : (closure h' table ex value').records = .ok rs :=
      closure_records_congr hroots hroots' hsame hrecords
    obtain rfl := Except.ok.inj (hrecords'.symm.trans hrecords'')
    exact Except.ok.inj (harchive.symm.trans harchive')

/-! ### Two functions in two lists -/

/-- A function that does nothing, of the given module. -/
def idleFunction (module name : String) : FunctionObject where
  name := name
  module := some module
  qualname := name
  isAsync := false
  signature := []

/-- Two functions of two modules, and two lists of them. -/
def shopHeap : Heap :=
  ⟨#[.function (idleFunction "cart" "add"), .function (idleFunction "price" "total"),
    .list [0, 1], .list [1, 0]]⟩

/-- The source of the one module imports the other one. -/
def cartSource : Bytes := Utf8.encode "import price"

/-- The two modules. -/
def shopModules : ModuleTable where
  modules := [
    ⟨"price", some ⟨false, some "/price.py", some []⟩, [("total", 1)]⟩,
    ⟨"cart", some ⟨false, some "/cart.py", some cartSource⟩, [("add", 0)]⟩]

/-- The two lists note the two modules, in different orders. -/
theorem referencedModules_shopHeap :
    shopHeap.referencedModules .standard 2 = .ok ["price", "cart"] ∧
      shopHeap.referencedModules .standard 3 = .ok ["cart", "price"] := by
  have hcart : Exclusion.standard.excludes "cart" = false := by decide +kernel
  have hprice : Exclusion.standard.excludes "price" = false := by decide +kernel
  constructor <;> simp [Heap.referencedModules, Heap.walk, Heap.size, List.range_succ,
    Heap.object?, Heap.fault?, Heap.homes, Heap.home?, Option.filter, Heap.successors,
    Heap.contents, Heap.enters, Heap.namedGlobals, List.eraseDups_cons, shopHeap, idleFunction,
    hcart, hprice]

theorem closure_shopHeap :
    (closure shopHeap shopModules .standard 3).records =
      .ok [⟨"cart", false, cartSource⟩, ⟨"price", false, []⟩] := by
  have hex : Exclusion.standard.excludes "cart" = false ∧
      Exclusion.standard.excludes "price" = false := by decide +kernel
  have hrunning : runningModule ∉ ["cart", "price"] := by decide
  have hthere : shopModules.importable = ["price", "cart"] := by decide
  have hspec : shopModules.spec? "cart" = some ⟨false, some "/cart.py", some cartSource⟩ ∧
      shopModules.spec? "price" = some ⟨false, some "/price.py", some []⟩ := by decide
  have hload : ModuleTable.load "cart" ⟨false, some "/cart.py", some cartSource⟩ =
        .ok ⟨"cart", false, cartSource⟩ ∧
      ModuleTable.load "price" ⟨false, some "/price.py", some []⟩ = .ok ⟨"price", false, []⟩ := by
    decide +kernel
  have hneeds : shopModules.needs ⟨"cart", false, cartSource⟩ = .ok ["price"] ∧
      shopModules.needs ⟨"price", false, []⟩ = .ok [] := by decide +kernel
  have hsort : sortNames ["cart", "price"] = ["cart", "price"] :=
    List.mergeSort_of_pairwise (by decide)
  rw [closure, referencedModules_shopHeap.2]
  simp [ModuleTable.closeOver, hrunning, hsort, ModuleTable.search, ModuleTable.Search.has, hex,
    hthere, hspec, hload, hneeds]
  exact List.mergeSort_of_pairwise (by decide)

/-- A list of the two functions is captured. -/
theorem exists_capture_shopHeap {value : ObjectId}
    (hrecords : (closure shopHeap shopModules .standard value).records =
      .ok [⟨"cart", false, cartSource⟩, ⟨"price", false, []⟩])
    (hsnapshot : (shopHeap.serialize shopModules value).isOk = true) :
    ∃ captured v, (capture shopHeap shopModules .standard value).run.run (.empty "") =
      (.ok captured, v) := by
  obtain ⟨events, hrun⟩ := capture_run shopHeap shopModules .standard value (.empty "")
  cases hbytes : shopHeap.serialize shopModules value with
  | error f =>
    rw [hbytes] at hsnapshot
    cases hsnapshot
  | ok snapshot =>
    have hfits : ∃ archive, Archive.encodeSorted
        [⟨"cart", false, cartSource⟩, ⟨"price", false, []⟩] = .ok archive := by
      rw [encodeSorted_eq_encode (by decide)]
      refine ⟨_, Archive.encode_eq_ok_iff.mpr ⟨⟨by decide, ?_⟩, rfl⟩⟩
      simp only [Archive.Fits]
      decide +kernel
    obtain ⟨archive, harchive⟩ := hfits
    have hresult : captureResult shopHeap shopModules .standard value =
        .ok ⟨snapshot, archive, ["cart", "price"]⟩ :=
      captureResult_eq_ok_iff.mpr ⟨_, hrecords, hbytes, harchive, rfl⟩
    rw [hresult] at hrun
    exact ⟨_, _, hrun⟩

/-- The two lists of functions come with the same archive, which holds both modules. -/
theorem capture_restored_shopHeap :
    ∃ captured captured' v v',
      (capture shopHeap shopModules .standard 3).run.run (.empty "") = (.ok captured, v) ∧
      (capture shopHeap shopModules .standard 2).run.run (.empty "") = (.ok captured', v') ∧
      Archive.decode captured.archive = .ok [⟨"cart", false, cartSource⟩, ⟨"price", false, []⟩] ∧
      captured.modules = ["cart", "price"] ∧ captured.archive = captured'.archive := by
  obtain ⟨hroots, hroots'⟩ := referencedModules_shopHeap
  have hsame : ∀ m, m ∈ ["cart", "price"] ↔ m ∈ ["price", "cart"] :=
    fun m => (List.Perm.swap "price" "cart" []).mem_iff
  have hrecords := closure_records_congr hroots' hroots hsame closure_shopHeap
  obtain ⟨captured, v, hcapture⟩ := exists_capture_shopHeap closure_shopHeap (by decide +kernel)
  obtain ⟨captured', v', hcapture'⟩ := exists_capture_shopHeap hrecords (by decide +kernel)
  obtain ⟨⟨rs, hclosure, hdecode, hmodules, -⟩, harchive⟩ :=
    capture_restored shopHeap shopModules .standard 3 _ v captured hcapture
  obtain rfl := Except.ok.inj (closure_shopHeap.symm.trans hclosure)
  exact ⟨captured, captured', v, v', hcapture, hcapture', hdecode, hmodules,
    harchive _ _ _ _ _ _ _ hcapture' hroots' hroots hsame⟩

end HandlerBundle
