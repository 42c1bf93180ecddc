import HandlerBundle.Object.Walk
import HandlerBundle.Proofs.Closure.Exclusion
import HandlerBundle.Proofs.Object.Layers
import Mathlib.Algebra.Order.BigOperators.Group.List
import Mathlib.Algebra.Order.Ring.Nat
import Mathlib.Data.Nat.Find
import Mathlib.Logic.Relation

/-!
# The graph of objects

Objects refer to others along edges of several kinds, and the edges from functions and classes count
only if these are entered: if they are at home in a module, and this is not excluded. A walk goes on
along the edges, and notes the modules that the objects are at home in. An object that stands for a
part of the graph outside of the heap, such as a class that annotations can name, is at home in all
modules that are noted there. The classes above a class are those that it derives from, in whatever
order they are looked up.

## Main definitions

* `Code.Uses` — the names that a code and those nested in it use.
* `Heap.IsEntered` — a home that a walk enters.
* `Heap.IsBase`, `Heap.IsAbove` — the classes that a class derives from.
* `Heap.Edge`, `Heap.IsReachable` — the graph of objects.
* `Heap.IsHome`, `Heap.IsNotedUnder` — the modules that an object is noted under.
* `Heap.FailsWith` — an object that fails when it is looked at.

## Main results

* `Heap.mem_mergeOrders_iff` — merged orders lose nothing.
* `Heap.mem_ancestors_iff` — the classes above a class.
* `Heap.mem_successors_iff` — the edges are what a walk goes on along.
* `Heap.mem_homes_iff` — the homes of an object are the modules that it is noted under.
-/

namespace HandlerBundle

/-! ### Code -/

namespace Code

/-- The names that a code uses, or one of those nested in it. -/
inductive Uses : Code → String → Prop
  | own {name own nested} (hname : name ∈ own) : Uses (.mk own nested) name
  | nested {name own nested c} (hc : c ∈ nested) (huses : Uses c name) : Uses (.mk own nested) name

theorem uses_mk_iff {own : List String} {nested : List Code} {name : String} :
    (mk own nested).Uses name ↔ name ∈ own ∨ ∃ c ∈ nested, c.Uses name := by
  constructor
  · rintro (hname | ⟨hc, huses⟩)
    · exact .inl hname
    · exact .inr ⟨_, hc, huses⟩
  · rintro (hname | ⟨c, hc, huses⟩)
    · exact .own hname
    · exact .nested hc huses

mutual

theorem mem_names_iff {name : String} : ∀ c : Code, name ∈ c.names ↔ c.Uses name
  | .mk own nested => by
    rw [names, List.mem_append, mem_namesOf_iff nested, uses_mk_iff]

theorem mem_namesOf_iff {name : String} : ∀ cs : List Code,
    name ∈ namesOf cs ↔ ∃ c ∈ cs, c.Uses name
  | [] => by simp [namesOf]
  | c :: cs => by
    rw [namesOf, List.mem_append, mem_names_iff c, mem_namesOf_iff cs, List.exists_mem_cons_iff]

end

end Code

/-- The global of a name. -/
def FunctionObject.global? (f : FunctionObject) (name : String) : Option ObjectId :=
  (f.globals.find? fun g => g.1 == name).map Prod.snd

/-- The attribute of a name, in a slot or in the dictionary of an instance. -/
def InstanceObject.attribute? (i : InstanceObject) (name : String) : Option ObjectId :=
  ((i.slotted ++ i.attributes).find? fun s => s.1 == name).map Prod.snd

namespace Heap

/-! ### The graph of objects -/

/-- A class that another one names as a base. -/
def IsBase (h : Heap) (id base : ObjectId) : Prop :=
  ∃ c, h.object? id = some (.cls c) ∧ base ∈ c.bases

/-- A class that another one derives from, directly or through others. -/
def IsAbove (h : Heap) (id top : ObjectId) : Prop :=
  Relation.TransGen h.IsBase id top

/-- A home that a walk enters: a module that is not excluded. -/
def IsEntered (ex : Exclusion) (module : Option String) : Prop :=
  ∃ m, module = some m ∧ ex.excludes m = false

/-- The edges of the graph of objects.

A function leads to the globals that its code or a nested one names, to what its cells hold and to
its defaults; a class to the classes above it and to its members. An instance leads to its class,
its attributes and the slots that the nearest declaration of slots names; one that is taken for its
value leads only to what it holds. -/
inductive Edge (h : Heap) (ex : Exclusion) (id : ObjectId) : ObjectId → Prop
  | global {f name next} (ho : h.object? id = some (.function f)) (hin : IsEntered ex f.module)
      (hname : f.code.Uses name) (hnext : f.global? name = some next) : Edge h ex id next
  | cell {f next} (ho : h.object? id = some (.function f)) (hin : IsEntered ex f.module)
      (hnext : some next ∈ f.cells) : Edge h ex id next
  | default {f next} (ho : h.object? id = some (.function f)) (hin : IsEntered ex f.module)
      (hnext : next ∈ f.defaults ∨ next ∈ f.keywordDefaults) : Edge h ex id next
  | applied {p next} (ho : h.object? id = some (.partialApplication p))
      (hnext : next = p.func ∨ next ∈ p.args ∨ next ∈ p.keywords.map Prod.snd) : Edge h ex id next
  | bound {func receiver next} (ho : h.object? id = some (.method func receiver))
      (hnext : next = func ∨ next = receiver) : Edge h ex id next
  | above {c next} (ho : h.object? id = some (.cls c)) (hin : IsEntered ex c.module)
      (hnext : h.IsAbove id next) : Edge h ex id next
  | member {c next} (ho : h.object? id = some (.cls c)) (hin : IsEntered ex c.module)
      (hnext : next ∈ c.members.map Prod.snd) : Edge h ex id next
  | wrapped {func} (ho : h.object? id = some (.staticMethod func) ∨
      h.object? id = some (.classMethod func)) : Edge h ex id func
  | accessor {accessors next} (ho : h.object? id = some (.property accessors))
      (hnext : next ∈ accessors) : Edge h ex id next
  | item {items next} (ho : h.object? id = some (.list items) ∨ h.object? id = some (.tuple items) ∨
      h.object? id = some (.set items) ∨ h.object? id = some (.frozenSet items))
      (hnext : next ∈ items) : Edge h ex id next
  | entry {entries next} (ho : h.object? id = some (.dict entries))
      (hnext : next ∈ entries.map Prod.fst ∨ next ∈ entries.map Prod.snd) : Edge h ex id next
  | held {i next} (ho : h.object? id = some (.instance_ i)) (htaken : h.isTakenAsValue i = true)
      (hnext : next ∈ h.payloadContents i) : Edge h ex id next
  | ofClass {i} (ho : h.object? id = some (.instance_ i)) (hseen : h.isTakenAsValue i = false) :
      Edge h ex id i.cls
  | inDictionary {i next} (ho : h.object? id = some (.instance_ i))
      (hseen : h.isTakenAsValue i = false) (hnext : next ∈ i.attributes.map Prod.snd) :
      Edge h ex id next
  | inSlot {i name next} (ho : h.object? id = some (.instance_ i))
      (hseen : h.isTakenAsValue i = false) (hname : name ∈ h.slotEntries i.cls)
      (hnext : i.attribute? name = some next) : Edge h ex id next

/-- What is reached from a value along the edges. -/
def IsReachable (h : Heap) (ex : Exclusion) (value id : ObjectId) : Prop :=
  Relation.ReflTransGen (h.Edge ex) value id

/-- The modules that an object is noted under: a module under its own name, a function or class
under the module it is at home in, be it excluded or not. Above every class that is entered stands
the root of all classes. -/
inductive IsHome (ex : Exclusion) : Object → String → Prop
  | module {name} (hne : name ≠ "") : IsHome ex (.module name) name
  | function {f m} (hm : f.module = some m) (hne : m ≠ "") : IsHome ex (.function f) m
  | builtin {name module m} (hm : module = some m) (hne : m ≠ "") :
      IsHome ex (.builtin name module) m
  | cls {c m} (hm : c.module = some m) (hne : m ≠ "") : IsHome ex (.cls c) m
  | root {c} (hin : IsEntered ex c.module) : IsHome ex (.cls c) rootModule
  | annotationClass {c m} (hm : m ∈ classHomes ex c) : IsHome ex (.annotationClass c) m
  | form {t m} (hm : m ∈ annotationHomes ex t) : IsHome ex (.form t) m

/-- The modules that the object at a place is noted under. -/
def IsNotedUnder (h : Heap) (ex : Exclusion) (id : ObjectId) (m : String) : Prop :=
  ∃ o, h.object? id = some o ∧ IsHome ex o m

/-- An object that fails when it is looked at. -/
def FailsWith (h : Heap) (id : ObjectId) (f : Failure) : Prop :=
  ∃ o, h.object? id = some o ∧ h.fault? o = some f

/-! ### The classes above a class -/

/-- A class from which another one is found so many classes further up. -/
inductive IsUnder (h : Heap) (top : ObjectId) : Nat → ObjectId → Prop
  | base {id} (hbase : h.IsBase id top) : IsUnder h top 0 id
  | derived {n id base} (hbase : h.IsBase id base) (hunder : IsUnder h top n base) :
      IsUnder h top (n + 1) id

variable {h : Heap} {ex : Exclusion} {id next : ObjectId}

theorem IsUnder.lt_size_heap {top : ObjectId} {n : Nat} (hid : h.IsUnder top n id) :
    id < h.size := by
  cases hid with
  | base hbase | derived hbase _ =>
    obtain ⟨c, ho, -⟩ := hbase
    exact lt_size_of_object?_eq_some ho

theorem isAbove_iff_exists_isUnder {top : ObjectId} :
    h.IsAbove id top ↔ ∃ n, h.IsUnder top n id := by
  constructor
  · intro habove
    induction habove using Relation.TransGen.head_induction_on with
    | single hbase => exact ⟨0, .base hbase⟩
    | head hbase _ ih =>
      obtain ⟨n, hunder⟩ := ih
      exact ⟨n + 1, .derived hbase hunder⟩
  · rintro ⟨n, hunder⟩
    induction hunder with
    | base hbase => exact .single hbase
    | derived hbase _ ih => exact .head hbase ih

/-- If no way up is shorter, the way up is shorter than the number of objects: the classes on it are
told apart by how far it still is. -/
theorem IsUnder.lt_size {top : ObjectId} {n : Nat} (hid : h.IsUnder top n id)
    (hleast : ∀ m < n, ¬ h.IsUnder top m id) : n < h.size := by
  refine lt_of_isRanked (R := fun k i => h.IsUnder top k i ∧ ∀ m < k, ¬ h.IsUnder top m i)
    (fun hk hl => ?_) (fun hk => ?_) (fun hk => hk.1.lt_size_heap) ⟨hid, hleast⟩
  · exact Nat.le_antisymm (Nat.not_lt.mp fun hlt => hk.2 _ hlt hl.1)
      (Nat.not_lt.mp fun hlt => hl.2 _ hlt hk.1)
  · obtain ⟨hunder, hleast⟩ := hk
    cases hunder with
    | derived hbase hunder =>
      exact ⟨_, hunder, fun m hm hunder' =>
        hleast (m + 1) (Nat.succ_lt_succ hm) (.derived hbase hunder')⟩

/-- Without a class that comes first in one of them, orders are shorter together. -/
theorem length_flatten_filter_lt {orders : List (List ObjectId)} {order : List ObjectId}
    (horder : order ∈ orders) (hhead : order.head? = some next) :
    (orders.map fun o => o.filter (· != next)).flatten.length < orders.flatten.length := by
  rw [List.length_flatten, List.length_flatten, List.map_map]
  refine List.sum_lt_sum _ _ (fun o _ => List.length_filter_le _ o) ⟨order, horder, ?_⟩
  exact List.length_filter_lt_length_iff_exists.mpr
    ⟨next, List.mem_of_mem_head? hhead, by simp⟩

/-- **Merged orders lose nothing** and add nothing. -/
theorem mem_mergeOrders_iff {fuel : Nat} {orders : List (List ObjectId)}
    (hfuel : orders.flatten.length ≤ fuel) :
    id ∈ mergeOrders fuel orders ↔ ∃ order ∈ orders, id ∈ order := by
  induction fuel generalizing orders with
  | zero =>
    have hempty : ∀ order ∈ orders, order = [] :=
      List.flatten_eq_nil_iff.mp (List.length_eq_zero_iff.mp (Nat.le_zero.mp hfuel))
    simp only [mergeOrders, List.not_mem_nil, false_iff, not_exists, not_and]
    exact fun order horder hid => List.not_mem_nil (hempty order horder ▸ hid)
  | succ fuel ih =>
    rw [mergeOrders]
    split
    next next hnext =>
      have hhead : next ∈ orders.filterMap (·.head?) := by
        rcases Option.or_eq_some_iff.mp hnext with hfree | ⟨-, hfirst⟩
        · exact List.mem_of_find?_eq_some hfree
        · exact List.mem_of_mem_head? hfirst
      obtain ⟨first, hfirst, hhead⟩ := List.mem_filterMap.mp hhead
      rw [List.mem_cons, ih (Nat.le_of_lt_succ
        ((length_flatten_filter_lt hfirst hhead).trans_le hfuel))]
      constructor
      · rintro (rfl | ⟨_, hmem, hid⟩)
        · exact ⟨first, hfirst, List.mem_of_mem_head? hhead⟩
        · obtain ⟨order, horder, rfl⟩ := List.mem_map.mp hmem
          exact ⟨order, horder, List.mem_of_mem_filter hid⟩
      · rintro ⟨order, horder, hid⟩
        by_cases heq : id = next
        · exact .inl heq
        · exact .inr ⟨_, List.mem_map_of_mem horder, List.mem_filter.mpr ⟨hid, by simpa using heq⟩⟩
    next hnone =>
      have hempty : orders.filterMap (·.head?) = [] :=
        List.head?_eq_none_iff.mp (Option.or_eq_none_iff.mp hnone).2
      simp only [List.not_mem_nil, false_iff, not_exists, not_and]
      intro order horder hid
      have hhead := List.filterMap_eq_nil_iff.mp hempty order horder
      rw [List.head?_eq_none_iff.mp hhead] at hid
      cases hid

/-- The classes above a class are its bases, and those above its bases. -/
theorem mem_ancestors_succ_iff {c : ClassObject} {top : ObjectId} {fuel : Nat}
    (ho : h.object? id = some (.cls c)) :
    top ∈ h.ancestors (fuel + 1) id ↔
      ∃ base ∈ c.bases, top = base ∨ top ∈ h.ancestors fuel base := by
  simp only [ancestors, ho]
  rw [mem_mergeOrders_iff le_rfl]
  constructor
  · rintro ⟨order, horder, htop⟩
    rcases List.mem_append.mp horder with horder | horder
    · obtain ⟨base, hbase, rfl⟩ := List.mem_map.mp horder
      exact ⟨base, hbase, List.mem_cons.mp htop⟩
    · obtain rfl := List.mem_singleton.mp horder
      exact ⟨top, htop, .inl rfl⟩
  · rintro ⟨base, hbase, htop⟩
    exact ⟨_, List.mem_append_left _ (List.mem_map_of_mem hbase), List.mem_cons.mpr htop⟩

theorem mem_ancestors_fuel_iff {top : ObjectId} {fuel : Nat} :
    top ∈ h.ancestors fuel id ↔ ∃ n < fuel, h.IsUnder top n id := by
  induction fuel generalizing id with
  | zero => simp [ancestors]
  | succ fuel ih =>
    constructor
    · intro hmem
      cases ho : h.object? id with
      | some o =>
        cases o with
        | cls c =>
          obtain ⟨base, hbase, rfl | hmem⟩ := (mem_ancestors_succ_iff ho).mp hmem
          · exact ⟨0, Nat.zero_lt_succ _, .base ⟨c, ho, hbase⟩⟩
          · obtain ⟨n, hn, hunder⟩ := ih.mp hmem
            exact ⟨n + 1, Nat.succ_lt_succ hn, .derived ⟨c, ho, hbase⟩ hunder⟩
        | _ => simp [ancestors, ho] at hmem
      | none => simp [ancestors, ho] at hmem
    · rintro ⟨n, hn, hunder⟩
      cases hunder with
      | base hbase =>
        obtain ⟨c, ho, hbase⟩ := hbase
        exact (mem_ancestors_succ_iff ho).mpr ⟨top, hbase, .inl rfl⟩
      | @derived n _ base hbase hunder =>
        obtain ⟨c, ho, hbase⟩ := hbase
        exact (mem_ancestors_succ_iff ho).mpr
          ⟨base, hbase, .inr (ih.mpr ⟨n, Nat.lt_of_succ_lt_succ hn, hunder⟩)⟩

/-- **The classes above a class** are those that it derives from. -/
theorem mem_ancestors_iff {top : ObjectId} : top ∈ h.ancestors h.size id ↔ h.IsAbove id top := by
  classical
  rw [mem_ancestors_fuel_iff, isAbove_iff_exists_isUnder]
  refine ⟨fun ⟨n, _, hunder⟩ => ⟨n, hunder⟩, fun hex => ?_⟩
  exact ⟨Nat.find hex, (Nat.find_spec hex).lt_size fun m hm => Nat.find_min hex hm,
    Nat.find_spec hex⟩

/-! ### Edges -/

theorem home?_eq_some_iff {module : Option String} {m : String} :
    home? module = some m ↔ module = some m ∧ m ≠ "" := by
  rw [home?, Option.filter_eq_some_iff, Bool.not_eq_true', String.isEmpty_eq_false_iff]

theorem enters_eq_true_iff {module : Option String} :
    enters ex module = true ↔ IsEntered ex module := by
  unfold enters IsEntered
  constructor
  · intro henters
    split at henters
    next m hm => exact ⟨m, (home?_eq_some_iff.mp hm).1, (Bool.not_eq_true' _).mp henters⟩
    next => cases henters
  · rintro ⟨m, hm, hex⟩
    rw [home?_eq_some_iff.mpr ⟨hm, Exclusion.ne_empty_of_excludes_eq_false hex⟩]
    exact (Bool.not_eq_true' _).mpr hex

/-- What is gone on to from what is entered only. -/
theorem mem_ite_enters_iff {module : Option String} {nexts : List ObjectId} :
    next ∈ (if enters ex module then nexts else []) ↔ IsEntered ex module ∧ next ∈ nexts := by
  rw [← enters_eq_true_iff]
  split_ifs with henters <;> simp [henters]

theorem mem_namedGlobals_iff {f : FunctionObject} :
    next ∈ namedGlobals f ↔ ∃ name, f.code.Uses name ∧ f.global? name = some next := by
  simp only [namedGlobals, List.mem_filterMap, Code.mem_names_iff, FunctionObject.global?]

theorem mem_functionSuccessors_iff {f : FunctionObject} :
    next ∈ h.successors ex id (.function f) ↔ IsEntered ex f.module ∧
      ((∃ name, f.code.Uses name ∧ f.global? name = some next) ∨ some next ∈ f.cells ∨
        next ∈ f.defaults ∨ next ∈ f.keywordDefaults) := by
  rw [successors, mem_ite_enters_iff]
  refine and_congr_right fun _ => ?_
  simp only [List.mem_append, mem_namedGlobals_iff, List.mem_filterMap, exists_eq_right, or_assoc]

theorem mem_instanceSuccessors_iff {i : InstanceObject} :
    next ∈ h.instanceSuccessors i ↔
      h.isTakenAsValue i = true ∧ next ∈ h.payloadContents i ∨
      h.isTakenAsValue i = false ∧ (next = i.cls ∨ next ∈ i.attributes.map Prod.snd ∨
        ∃ name ∈ h.slotEntries i.cls, i.attribute? name = some next) := by
  unfold instanceSuccessors InstanceObject.attribute?
  cases h.isTakenAsValue i <;> simp

/-- An edge leads to one of the objects that a walk goes on to. -/
theorem Edge.exists_mem_successors (hedge : h.Edge ex id next) :
    ∃ o, h.object? id = some o ∧ next ∈ h.successors ex id o := by
  cases hedge with
  | global ho hin hname hnext =>
    exact ⟨_, ho, mem_functionSuccessors_iff.mpr ⟨hin, .inl ⟨_, hname, hnext⟩⟩⟩
  | cell ho hin hnext => exact ⟨_, ho, mem_functionSuccessors_iff.mpr ⟨hin, .inr (.inl hnext)⟩⟩
  | default ho hin hnext => exact ⟨_, ho, mem_functionSuccessors_iff.mpr ⟨hin, .inr (.inr hnext)⟩⟩
  | applied ho hnext => exact ⟨_, ho, by simpa [successors, contents] using hnext⟩
  | bound ho hnext => exact ⟨_, ho, by simpa [successors] using hnext⟩
  | above ho hin hnext =>
    refine ⟨_, ho, mem_ite_enters_iff.mpr ⟨hin, ?_⟩⟩
    exact List.mem_append_left _ (mem_ancestors_iff.mpr hnext)
  | member ho hin hnext =>
    exact ⟨_, ho, mem_ite_enters_iff.mpr ⟨hin, List.mem_append_right _ hnext⟩⟩
  | wrapped ho =>
    rcases ho with ho | ho <;> exact ⟨_, ho, List.mem_singleton.mpr rfl⟩
  | accessor ho hnext => exact ⟨_, ho, hnext⟩
  | item ho hnext =>
    rcases ho with ho | ho | ho | ho <;> exact ⟨_, ho, hnext⟩
  | entry ho hnext => exact ⟨_, ho, List.mem_append.mpr hnext⟩
  | held ho htaken hnext => exact ⟨_, ho, mem_instanceSuccessors_iff.mpr (.inl ⟨htaken, hnext⟩)⟩
  | ofClass ho hseen => exact ⟨_, ho, mem_instanceSuccessors_iff.mpr (.inr ⟨hseen, .inl rfl⟩)⟩
  | inDictionary ho hseen hnext =>
    exact ⟨_, ho, mem_instanceSuccessors_iff.mpr (.inr ⟨hseen, .inr (.inl hnext)⟩)⟩
  | inSlot ho hseen hname hnext =>
    exact ⟨_, ho, mem_instanceSuccessors_iff.mpr (.inr ⟨hseen, .inr (.inr ⟨_, hname, hnext⟩)⟩)⟩

/-- To every object that a walk goes on to leads an edge. -/
theorem edge_of_mem_successors {o : Object} (ho : h.object? id = some o)
    (hnext : next ∈ h.successors ex id o) : h.Edge ex id next := by
  cases o with
  | function f =>
    obtain ⟨hin, ⟨name, hname, hglobal⟩ | hcell | hdefault⟩ := mem_functionSuccessors_iff.mp hnext
    · exact .global ho hin hname hglobal
    · exact .cell ho hin hcell
    · exact .default ho hin hdefault
  | partialApplication p => exact .applied ho (by simpa [successors, contents] using hnext)
  | method func receiver => exact .bound ho (by simpa [successors] using hnext)
  | cls c =>
    obtain ⟨hin, hnext⟩ := mem_ite_enters_iff.mp hnext
    rcases List.mem_append.mp hnext with habove | hmember
    · exact .above ho hin (mem_ancestors_iff.mp habove)
    · exact .member ho hin hmember
  | staticMethod func =>
    obtain rfl := List.mem_singleton.mp hnext
    exact .wrapped (.inl ho)
  | classMethod func =>
    obtain rfl := List.mem_singleton.mp hnext
    exact .wrapped (.inr ho)
  | property accessors => exact .accessor ho hnext
  | list items => exact .item (.inl ho) hnext
  | tuple items => exact .item (.inr (.inl ho)) hnext
  | set items => exact .item (.inr (.inr (.inl ho))) hnext
  | frozenSet items => exact .item (.inr (.inr (.inr ho))) hnext
  | dict entries => exact .entry ho (List.mem_append.mp hnext)
  | instance_ i =>
    rcases mem_instanceSuccessors_iff.mp hnext with ⟨htaken, hheld⟩ | ⟨hseen, hnext⟩
    · exact .held ho htaken hheld
    · obtain rfl | hstored | ⟨name, hname, hslot⟩ := hnext
      · exact .ofClass ho hseen
      · exact .inDictionary ho hseen hstored
      · exact .inSlot ho hseen hname hslot
  | constant _ | byteArray _ | module _ | builtin _ _ | annotationClass _ | form _ => cases hnext

/-- **The edges are what a walk goes on along.** -/
theorem mem_successors_iff {o : Object} (ho : h.object? id = some o) :
    next ∈ h.successors ex id o ↔ h.Edge ex id next := by
  refine ⟨edge_of_mem_successors ho, fun hedge => ?_⟩
  obtain ⟨o', ho', hnext⟩ := hedge.exists_mem_successors
  obtain rfl := Option.some.inj (ho.symm.trans ho')
  exact hnext

/-! ### Homes -/

theorem mem_toList_home?_iff {module : Option String} {m : String} :
    m ∈ (home? module).toList ↔ module = some m ∧ m ≠ "" := by
  rw [Option.mem_toList, home?_eq_some_iff]

/-- **The homes of an object** are the modules that it is noted under. -/
theorem mem_homes_iff {o : Object} {m : String} : m ∈ homes ex o ↔ IsHome ex o m := by
  constructor
  · intro hm
    cases o with
    | module name =>
      rw [homes] at hm
      split_ifs at hm with hempty
      · cases hm
      · obtain rfl := List.mem_singleton.mp hm
        exact .module (mt String.isEmpty_iff.mpr hempty)
    | function f =>
      obtain ⟨hm, hne⟩ := mem_toList_home?_iff.mp hm
      exact .function hm hne
    | builtin name module =>
      obtain ⟨hm, hne⟩ := mem_toList_home?_iff.mp hm
      exact .builtin hm hne
    | cls c =>
      rcases List.mem_append.mp hm with hm | hm
      · obtain ⟨hm, hne⟩ := mem_toList_home?_iff.mp hm
        exact .cls hm hne
      · split_ifs at hm with henters
        · obtain rfl := List.mem_singleton.mp hm
          exact .root (enters_eq_true_iff.mp henters)
        · cases hm
    | annotationClass c => exact .annotationClass hm
    | form t => exact .form hm
    | _ => cases hm
  · intro hm
    cases hm with
    | module hne =>
      rw [homes, if_neg (mt String.isEmpty_iff.mp hne)]
      exact List.mem_singleton.mpr rfl
    | function hm hne | builtin hm hne => exact mem_toList_home?_iff.mpr ⟨hm, hne⟩
    | cls hm hne => exact List.mem_append_left _ (mem_toList_home?_iff.mpr ⟨hm, hne⟩)
    | root hin =>
      refine List.mem_append_right _ ?_
      rw [if_pos (enters_eq_true_iff.mpr hin)]
      exact List.mem_singleton.mpr rfl
    | annotationClass hm | form hm => exact hm

end Heap

end HandlerBundle
