import HandlerBundle.Proofs.Package.Relation

/-!
# Builds in two directories

The same steps in two directories that look alike come to the same result, leave the directories
alike, and change nothing outside of them. So what a handler is packaged into does not depend on
where its directory is, or on what else has been written.

## Main definitions

* `Build.Mirrors` — steps that do the same in two directories.
* `BuildHook.IsLocal` — a hook that sees and changes no more than its directory.

## Main results

* `fillDirectory_mirrors` — a directory is filled in the same way wherever it is.
-/

namespace HandlerBundle

/-- A hook that sees and changes no more than what is below its directory: it changes nothing
outside, and in two directories that look alike it returns the same and leaves them alike. -/
structure BuildHook.IsLocal (hook : BuildHook) : Prop where
  outside : ∀ d t, d ∈ t.directories → FileTree.SameOutside d t ((hook d).run.run t).2
  result : ∀ t d t' d', d ∈ t.directories → d' ∈ t'.directories → FileTree.SameBelow t d t' d' →
    ((hook d).run.run t).1 = ((hook d').run.run t').1
  below : ∀ t d t' d', d ∈ t.directories → d' ∈ t'.directories → FileTree.SameBelow t d t' d' →
    FileTree.SameBelow ((hook d).run.run t).2 d ((hook d').run.run t').2 d'

/-- Doing nothing is local. -/
theorem BuildHook.isLocal_idle : BuildHook.idle.IsLocal where
  outside d t _ := .refl d t
  result _ _ _ _ _ _ _ := rfl
  below _ _ _ _ _ _ h := h

namespace Build

variable {α β : Type} {same : Prop} {d d' : TreePath}

/-- Directories that can be opened, and are one if the same paths are shown. -/
structure Alongside (same : Prop) (d d' : TreePath) : Prop where
  path : same → d = d'
  isNullFree : d.IsNullFree
  isNullFree' : d'.IsNullFree

/-- Steps that do the same in the directory `d` of one workspace and `d'` of another one, and stay
at their places. -/
def Mirrors (same : Prop) (d d' : TreePath) (R : α → α → Prop) (p p' : Build α) : Prop :=
  ∀ w w', (same → w.place = w'.place) → d ∈ w.files.directories → d' ∈ w'.files.directories →
    w.files.SameBelow d w'.files d' →
    SameResult same R (p.run.run w).1 (p'.run.run w').1 ∧
    ((p.run.run w).2.place = w.place ∧ (p'.run.run w').2.place = w'.place) ∧
    (p.run.run w).2.files.SameBelow d (p'.run.run w').2.files d' ∧
    FileTree.SameOutside d w.files (p.run.run w).2.files ∧
    FileTree.SameOutside d' w'.files (p'.run.run w').2.files

/-- Trees that look alike from a directory of each, and were `t₀` and `t₀'` before what is below
these directories was changed. -/
structure Mirrored (t₀ : FileTree) (d : TreePath) (t₀' : FileTree) (d' : TreePath)
    (t t' : FileTree) : Prop where
  mem : d ∈ t.directories
  mem' : d' ∈ t'.directories
  below : t.SameBelow d t' d'
  outside : FileTree.SameOutside d t₀ t
  outside' : FileTree.SameOutside d' t₀' t'

variable {R : α → α → Prop} {S : β → β → Prop} {p p' : Build α} {t t' : FileTree}

/-- Steps do the same in two directories if they keep what looks alike from there alike, whatever
was there before. -/
theorem mirrors_iff :
    Mirrors same d d' R p p' ↔ ∀ t t', Relates same (Mirrored t d t' d') R p p' := by
  constructor
  · intro h t t' w w' hplace hfiles
    obtain ⟨hresult, hstays, hbelow, houtside, houtside'⟩ :=
      h w w' hplace hfiles.mem hfiles.mem' hfiles.below
    exact ⟨hresult, hstays, houtside.mem_directories.mp hfiles.mem,
      houtside'.mem_directories.mp hfiles.mem', hbelow, hfiles.outside.trans houtside,
      hfiles.outside'.trans houtside'⟩
  · intro h w w' hplace hd hd' hbelow
    obtain ⟨hresult, hstays, hafter⟩ :=
      h w.files w'.files w w' hplace ⟨hd, hd', hbelow, .refl d _, .refl d' _⟩
    exact ⟨hresult, hstays, hafter.below, hafter.outside, hafter.outside'⟩

/-- What looks alike from two directories stays alike when the same is written there. -/
theorem isKept_mirrored (hd : Alongside same d d') :
    FileTree.IsKept same (Mirrored t d t' d') d d' where
  path := hd.path
  fault access rel h :=
    h.below.fault?_eq h.mem h.mem' hd.isNullFree hd.isNullFree' access rel
  ensureDirectory _ h := by
    rwa [FileTree.ensureDirectory_of_mem h.mem, FileTree.ensureDirectory_of_mem h.mem']
  write {u u' rel} content hrel _ h :=
    ⟨h.mem, h.mem', h.below.write rel content, h.outside.trans (.write u hrel content),
      h.outside'.trans (.write u' hrel content)⟩
  remove {u u' rel} hrel h :=
    ⟨h.mem, h.mem', h.below.remove rel, h.outside.trans (.remove u hrel),
      h.outside'.trans (.remove u' hrel)⟩

/-- A local hook keeps what looks alike from its directory alike. -/
theorem keeps_mirrored {hook : BuildHook} (h : hook.IsLocal) :
    hook.Keeps (Mirrored t d t' d') d d' := by
  intro u u' hfiles
  have houtside := h.outside d u hfiles.mem
  have houtside' := h.outside d' u' hfiles.mem'
  exact ⟨h.result _ _ _ _ hfiles.mem hfiles.mem' hfiles.below,
    houtside.mem_directories.mp hfiles.mem, houtside'.mem_directories.mp hfiles.mem',
    h.below _ _ _ _ hfiles.mem hfiles.mem' hfiles.below, hfiles.outside.trans houtside,
    hfiles.outside'.trans houtside'⟩

namespace Mirrors

theorem pure {a a' : α} (h : R a a') : Mirrors same d d' R (Pure.pure a) (Pure.pure a') :=
  mirrors_iff.mpr fun _ _ => .pure h

theorem get : Mirrors same d d' (fun _ _ => True) MonadState.get MonadState.get :=
  fun w w' _ _ _ hbelow => ⟨.ok trivial, ⟨rfl, rfl⟩, hbelow, .refl d w.files, .refl d' w'.files⟩

/-- What is told is not written. -/
theorem tell (e e' : Event) : Mirrors same d d' Eq (Build.tell e) (Build.tell e') :=
  mirrors_iff.mpr fun _ _ => .tell e e'

/-- Steps one after the other do the same if each of them does. -/
theorem bind {q q' : α → Build β} (hp : Mirrors same d d' R p p')
    (hq : ∀ a a', R a a' → Mirrors same d d' S (q a) (q' a')) :
    Mirrors same d d' S (p >>= q) (p' >>= q') :=
  mirrors_iff.mpr fun t t' =>
    (mirrors_iff.mp hp t t').bind fun a a' h => mirrors_iff.mp (hq a a' h) t t'

/-- Steps whose values are not looked at. -/
theorem seq {q q' : Build β} (hp : Mirrors same d d' R p p') (hq : Mirrors same d d' S q q') :
    Mirrors same d d' S (do let _ ← p; q) (do let _ ← p'; q') :=
  hp.bind fun _ _ _ => hq

/-- The directory in which steps are done need not be made. -/
theorem enterDirectory (hd : Alongside same d d') :
    Mirrors same d d' Eq (Build.enterDirectory d) (Build.enterDirectory d') :=
  mirrors_iff.mpr fun _ _ => .enterDirectory (isKept_mirrored hd)

theorem writeFile (hd : Alongside same d d') {rel : TreePath} (hrel : rel ≠ [])
    (content : FileContent) :
    Mirrors same d d' Eq (Build.writeFile (d ++ rel) content)
      (Build.writeFile (d' ++ rel) content) :=
  mirrors_iff.mpr fun _ _ => .writeFile (isKept_mirrored hd) hrel content

theorem writeCompiled (hd : Alongside same d d') {rel : TreePath} (hrel : rel ≠ [])
    (source : Bytes) :
    Mirrors same d d' Eq (Build.writeCompiled (d ++ rel) source)
      (Build.writeCompiled (d' ++ rel) source) :=
  mirrors_iff.mpr fun _ _ => .writeCompiled (isKept_mirrored hd) hrel source

theorem removeFile (hd : Alongside same d d') {rel : TreePath} (hrel : rel ≠ []) :
    Mirrors same d d' Eq (Build.removeFile (d ++ rel)) (Build.removeFile (d' ++ rel)) :=
  mirrors_iff.mpr fun _ _ => .removeFile (isKept_mirrored hd) hrel

/-- A local hook does the same in both directories. -/
theorem onFiles {hook : BuildHook} (h : hook.IsLocal) :
    Mirrors same d d' Eq (Build.onFiles (hook d)) (Build.onFiles (hook d')) :=
  mirrors_iff.mpr fun _ _ => .onFiles (keeps_mirrored h)

end Mirrors

end Build

/-! ### Filling a directory -/

open Build

variable {same : Prop} {d d' : TreePath}

/-- A value is captured in the same way wherever its build is. -/
theorem capture_mirrors (h : Heap) (table : ModuleTable) (ex : Exclusion) (value : ObjectId) :
    Mirrors same d d' Eq (capture h table ex value) (capture h table ex value) :=
  mirrors_iff.mpr fun _ _ => capture_relates h table ex value

/-- The same manifest is written into both directories. -/
theorem writeManifest_mirrors (hd : Alongside same d d') (attributes : List Attribute) :
    Mirrors same d d' Eq (writeManifest d attributes) (writeManifest d' attributes) :=
  mirrors_iff.mpr fun _ _ => writeManifest_relates (isKept_mirrored hd) attributes

/-- **A directory is filled in the same way wherever it is.** If the hooks of the attributes are
local, the same candidate comes to the same result in two directories that look alike, which then
look alike again. -/
theorem fillDirectory_mirrors (ctx : PackageContext) (c : Candidate) {attributes : List Attribute}
    (hd : Alongside same d d') (h : ∀ a ∈ attributes, a.build.IsLocal) :
    Mirrors same d d' (fun r r' => r.directory = some d ∧ r' = { r with directory := some d' })
      (fillDirectory ctx c attributes d) (fillDirectory ctx c attributes d') :=
  mirrors_iff.mpr fun _ _ =>
    fillDirectory_relates ctx c (isKept_mirrored hd) fun a ha => keeps_mirrored (h a ha)

end HandlerBundle
