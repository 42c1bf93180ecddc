import HandlerBundle.Proofs.Text.Dotted
import HandlerBundle.Source.Import

/-!
# What the imports of a source name

The imports of a source name what its statements name one by one, wherever these stand. An import
from one package up is resolved against the package of the source, and one from further up against
what is left of it without as many components. Only where the package has too few components, so
that there is nothing to import from, the cut is counted from the other end: the components that are
kept are not those of a package above, and the import still names modules.

## Main definitions

* `IsDottedName` — a name without empty components.
* `packageOf`, `packageComponents` — the package of a source, and its components.
* `Statement.nodes` — a statement and all those below it.
* `namesBelow` — what an import from a module names, by the components of the module.

## Main results

* `resolveRelative_eq_joinComponents` — the module that a relative import names.
* `importedModules_perm` — the imports of a source are those of its statements.
* `importedModules_relative` — what the relative imports of a source name.
-/

namespace HandlerBundle

/-! ### The package of a source -/

/-- A name whose components are not empty. -/
def IsDottedName (name : String) : Prop :=
  ∀ part ∈ components name, part ≠ ""

instance (name : String) : Decidable (IsDottedName name) :=
  inferInstanceAs (Decidable (∀ part ∈ components name, part ≠ ""))

/-- The package of a source: the module itself if it is a package, and its parent otherwise. -/
def packageOf (name : String) (isPackage : Bool) : String :=
  if isPackage then name else parentName name

/-- The components of the package of a source; a module at the top has none to be in. -/
def packageComponents (name : String) (isPackage : Bool) : List String :=
  if isPackage then components name else (components name).dropLast

variable {name : String} {isPackage : Bool}

theorem mem_components_of_mem_packageComponents {part : String}
    (h : part ∈ packageComponents name isPackage) : part ∈ components name := by
  unfold packageComponents at h
  split_ifs at h
  · exact h
  · exact List.dropLast_subset _ h

theorem ne_empty_of_mem_take_packageComponents (hname : IsDottedName name) (count : Nat) :
    ∀ part ∈ (packageComponents name isPackage).take count, part ≠ "" := fun part hpart =>
  hname part (mem_components_of_mem_packageComponents (List.mem_of_mem_take hpart))

theorem packageOf_eq_joinComponents (name : String) (isPackage : Bool) :
    packageOf name isPackage = joinComponents (packageComponents name isPackage) := by
  unfold packageOf packageComponents
  split_ifs
  · exact (joinComponents_components name).symm
  · rfl

/-- The package of a source has the components that it is cut into. -/
theorem components_packageOf (hname : IsDottedName name) (isPackage : Bool) :
    (if (packageOf name isPackage).isEmpty then [] else components (packageOf name isPackage)) =
      packageComponents name isPackage := by
  have hempty : packageOf name isPackage = "" ↔ packageComponents name isPackage = [] := by
    rw [packageOf_eq_joinComponents]
    exact joinComponents_eq_empty_iff fun part hpart =>
      hname part (mem_components_of_mem_packageComponents hpart)
  split_ifs with h
  · exact (hempty.mp (String.isEmpty_iff.mp h)).symm
  · rw [packageOf_eq_joinComponents]
    exact components_joinComponents (fun hnil => h (String.isEmpty_iff.mpr (hempty.mpr hnil)))
      fun part hpart =>
      notMem_of_mem_components (mem_components_of_mem_packageComponents hpart)

/-! ### Relative imports -/

/-- What an import gives behind its dots; an empty text stands for nothing. -/
def modulePart (module : Option String) : List String :=
  (module.filter (· ≠ "")).toList

/-- The modules that an import of names from a module names, by the components of the module: the
module itself, and one below it for each name. -/
def namesBelow (parts names : List String) : List String :=
  if parts = [] then [] else
    joinComponents parts :: names.map fun name => joinComponents parts ++ "." ++ name

/-- How many components are kept of a package for an import from further up than it has components.
One package above the topmost one none is left; from there on the cut is counted from the other
end. -/
def keptBeyond (count level : Nat) : Nat :=
  if level = count + 1 then 0 else 2 * count + 1 - level

/-- How many components of a package are kept for an import from so many packages up. -/
def keptCount (count level : Nat) : Nat :=
  if level ≤ count then count - (level - 1) else keptBeyond count level

theorem ne_empty_of_mem_modulePart {module : Option String} {part : String}
    (h : part ∈ modulePart module) : part ≠ "" := by
  obtain ⟨-, hne⟩ := Option.filter_eq_some_iff.mp (Option.mem_toList.mp h)
  exact of_decide_eq_true hne

/-- The text that follows the dots is joined to what is kept of the package. -/
theorem joinComponents_append_modulePart {parts : List String}
    (hparts : ∀ part ∈ parts, part ≠ "") (module : Option String) :
    joinComponents (parts ++ modulePart module) =
      match module with
      | some m =>
        if m.isEmpty then joinComponents parts
        else if (joinComponents parts).isEmpty then m else joinComponents parts ++ "." ++ m
      | none => joinComponents parts := by
  cases module with
  | none => rw [modulePart, Option.filter_none, Option.toList_none, List.append_nil]
  | some m =>
    simp only [String.isEmpty_iff, joinComponents_eq_empty_iff hparts]
    split_ifs with hm hparts
    · rw [modulePart, Option.filter_some_neg (by simpa using hm), Option.toList_none,
        List.append_nil]
    · rw [modulePart, Option.filter_some_pos (by simpa using hm), hparts]
      rfl
    · rw [modulePart, Option.filter_some_pos (by simpa using hm), Option.toList_some,
        joinComponents_append hparts (List.cons_ne_nil _ _)]
      rfl

/-- An import from one package up keeps the package as it is. -/
theorem keptCount_one (count : Nat) : keptCount count 1 = count := by
  unfold keptCount keptBeyond
  split_ifs <;> omega

/-- What is kept of a package for an import from so many packages up, the end of the cut counted
from the other end where it is negative. -/
theorem take_keptCount (parts : List String) {level : Nat} (hlevel : 1 ≤ level) :
    (if 1 < (level : Int) then
      let stop : Int := parts.length - ((level : Int) - 1)
      if 0 ≤ stop then parts.take stop.toNat else parts.take ((parts.length : Int) + stop).toNat
    else parts) = parts.take (keptCount parts.length level) := by
  rcases Nat.eq_or_lt_of_le hlevel with rfl | hfurther
  · rw [if_neg (by omega), keptCount_one, List.take_length]
  · rw [if_pos (by omega)]
    dsimp only
    split_ifs with hstop <;> congr 1 <;> unfold keptCount keptBeyond <;> split_ifs <;> omega

/-- **The module that a relative import names**: what is kept of the package, continued by what
follows the dots. -/
theorem resolveRelative_eq_joinComponents (hname : IsDottedName name) {level : Nat}
    (hlevel : 1 ≤ level) (module : Option String) :
    resolveRelative (packageOf name isPackage) level module =
      joinComponents ((packageComponents name isPackage).take
        (keptCount (packageComponents name isPackage).length level) ++ modulePart module) := by
  rw [joinComponents_append_modulePart (ne_empty_of_mem_take_packageComponents hname _),
    ← take_keptCount _ hlevel, ← components_packageOf hname]
  rfl

theorem modulesFrom_joinComponents {parts : List String} (hparts : ∀ part ∈ parts, part ≠ "")
    (names : List String) : modulesFrom (joinComponents parts) names = namesBelow parts names := by
  unfold modulesFrom namesBelow
  simp only [String.isEmpty_iff, joinComponents_eq_empty_iff hparts]

theorem namesBelow_eq_nil_iff {parts names : List String} :
    namesBelow parts names = [] ↔ parts = [] := by
  unfold namesBelow
  split_ifs with h <;> simp [h]

/-- What a relative import of names names. -/
theorem importedBy_importFrom (hname : IsDottedName name) {level : Nat} (hlevel : 1 ≤ level)
    (module : Option String) (names : List String) :
    (Statement.importFrom level module names).importedBy (packageOf name isPackage) =
      namesBelow
        ((packageComponents name isPackage).take
          (keptCount (packageComponents name isPackage).length level) ++ modulePart module)
        names := by
  rw [Statement.importedBy, if_neg (by omega), resolveRelative_eq_joinComponents hname hlevel]
  refine modulesFrom_joinComponents (fun part hpart => ?_) names
  rcases List.mem_append.mp hpart with hpart | hpart
  · exact ne_empty_of_mem_take_packageComponents hname _ part hpart
  · exact ne_empty_of_mem_modulePart hpart

/-- Nothing is kept of a package one above the topmost one, and none from as many above it as it has
components. -/
theorem take_keptBeyond_eq_nil_iff {parts : List String} {level : Nat}
    (hbeyond : parts.length < level) :
    parts.take (keptBeyond parts.length level) = [] ↔
      level = parts.length + 1 ∨ 2 * parts.length < level := by
  rw [List.take_eq_nil_iff, ← List.length_eq_zero_iff, keptBeyond]
  split_ifs <;> omega

/-! ### The statements of a source -/

namespace Statement

mutual

/-- A statement and all statements below it. -/
def nodes : Statement → List Statement
  | .scope parameters body => .scope parameters body :: nodesOf body
  | .block body => .block body :: nodesOf body
  | s => [s]

/-- Statements and all those below them. -/
def nodesOf : List Statement → List Statement
  | [] => []
  | s :: ss => nodes s ++ nodesOf ss

end

theorem flatten_joinLevels_perm (xs ys : List (List String)) :
    (joinLevels xs ys).flatten.Perm (xs.flatten ++ ys.flatten) := by
  induction xs generalizing ys with
  | nil => rw [joinLevels, List.flatten_nil, List.nil_append]
  | cons x xs ih =>
    cases ys with
    | nil => simp [joinLevels]
    | cons y ys =>
      rw [joinLevels, List.flatten_cons, List.flatten_cons, List.flatten_cons]
      have hswap : (y ++ (xs.flatten ++ ys.flatten)).Perm (xs.flatten ++ (y ++ ys.flatten)) := by
        rw [← List.append_assoc, ← List.append_assoc]
        exact List.perm_append_comm.append_right _
      rw [List.append_assoc, List.append_assoc]
      exact (((ih ys).append_left y).trans hswap).append_left x

mutual

theorem flatten_importLevels_perm (package : String) : ∀ s : Statement,
    (importLevels package s).flatten.Perm (s.nodes.flatMap (importedBy package))
  | .plain | .importNames _ | .importFrom _ _ _ | .global _ => by
    simp [importLevels, nodes]
  | .scope _ body | .block body => by
    simpa [importLevels, nodes, importedBy] using flatten_levelsOf_perm package body

theorem flatten_levelsOf_perm (package : String) : ∀ ss : List Statement,
    (levelsOf package ss).flatten.Perm ((nodesOf ss).flatMap (importedBy package))
  | [] => by simp [levelsOf, nodesOf]
  | s :: ss => by
    rw [levelsOf, nodesOf, List.flatMap_append]
    exact (flatten_joinLevels_perm _ _).trans
      ((flatten_importLevels_perm package s).append (flatten_levelsOf_perm package ss))

end

end Statement

/-- The imports of a source name what its statements name, each as often as it stands there. -/
theorem importedModules_perm {reader : SourceReader} {source : Bytes} {ss : List Statement}
    (hparse : parseSource reader source = .ok ss) (name : String) (isPackage : Bool) :
    ∃ yielded, importedModules reader name isPackage source = .ok yielded ∧
      yielded.Perm
        ((Statement.nodesOf ss).flatMap (Statement.importedBy (packageOf name isPackage))) :=
  ⟨_, by rw [importedModules, hparse]; rfl, Statement.flatten_levelsOf_perm _ ss⟩

/-- **What the relative imports of a source name.** The imports of a source name what its statements
name. One from no further up than the topmost package names, by the components of the package of the
source without the last ones, what follows the dots below it, and every imported name below that.
One from further up names the same below what the cut from the other end leaves of the package; it
names nothing only if nothing follows its dots and the cut leaves nothing. -/
theorem importedModules_relative {reader : SourceReader} {source : Bytes} {ss : List Statement}
    (isPackage : Bool) (hname : IsDottedName name) (hparse : parseSource reader source = .ok ss) :
    (∃ yielded, importedModules reader name isPackage source = .ok yielded ∧
      yielded.Perm
        ((Statement.nodesOf ss).flatMap (Statement.importedBy (packageOf name isPackage)))) ∧
    ∀ (level : Nat) (module : Option String) (names : List String), 1 ≤ level →
      let package := packageComponents name isPackage
      let yielded := (Statement.importFrom level module names).importedBy (packageOf name isPackage)
      (level ≤ package.length →
        yielded =
          namesBelow (package.take (package.length - (level - 1)) ++ modulePart module) names) ∧
      (package.length < level →
        yielded =
          namesBelow (package.take (keptBeyond package.length level) ++ modulePart module) names ∧
        (yielded = [] ↔
          modulePart module = [] ∧ (level = package.length + 1 ∨ 2 * package.length < level))) := by
  refine ⟨importedModules_perm hparse name isPackage, fun level module names hlevel => ?_⟩
  intro package yielded
  have hyielded : yielded = namesBelow
      (package.take (keptCount package.length level) ++ modulePart module) names :=
    importedBy_importFrom hname hlevel module names
  refine ⟨fun hwithin => ?_, fun hbeyond => ?_⟩
  · rw [hyielded, keptCount, if_pos hwithin]
  · rw [keptCount, if_neg (Nat.not_le.mpr hbeyond)] at hyielded
    refine ⟨hyielded, ?_⟩
    rw [hyielded, namesBelow_eq_nil_iff, List.append_eq_nil_iff,
      take_keptBeyond_eq_nil_iff hbeyond, and_comm]

/-- A source with an import from one package above its topmost one. -/
def orderSource : Bytes :=
  Utf8.encode "from ..util import run"

theorem exists_parseSource_orderSource : ∃ ss, parseSource .plain orderSource = .ok ss := by
  have hread : (parseSource .plain orderSource).isOk = true := by decide +kernel
  cases hparse : parseSource .plain orderSource with
  | ok ss => exact ⟨ss, rfl⟩
  | error e =>
    rw [hparse] at hread
    cases hread

/-- Above the topmost package of `shop.orders` there is nothing to import from, but the import names
modules. -/
theorem importedModules_relative_orderSource :
    IsDottedName "shop.orders" ∧ (∃ ss, parseSource .plain orderSource = .ok ss) ∧
    importedModules .plain "shop.orders" false orderSource = .ok ["util", "util.run"] ∧
    (packageComponents "shop.orders" false).length < 2 ∧
    (Statement.importFrom 2 (some "util") ["run"]).importedBy (packageOf "shop.orders" false) =
      ["util", "util.run"] := by
  have hname : IsDottedName "shop.orders" := by decide +kernel
  have hbeyond : (packageComponents "shop.orders" false).length < 2 := by decide +kernel
  have himports : importedModules .plain "shop.orders" false orderSource =
      .ok ["util", "util.run"] := by
    decide +kernel
  obtain ⟨ss, hparse⟩ := exists_parseSource_orderSource
  obtain ⟨-, hrelative⟩ := importedModules_relative false hname hparse
  refine ⟨hname, ⟨ss, hparse⟩, himports, hbeyond, ?_⟩
  rw [((hrelative 2 (some "util") ["run"] (by decide)).2 hbeyond).1]
  decide +kernel

end HandlerBundle
