import HandlerBundle.Host.Call
import HandlerBundle.Proofs.Results
import HandlerBundle.Proofs.Run
import Mathlib.Data.List.Induction

/-!
# One finder for each directory

A host keeps the finders that it imports modules with, and a table of the directories that they are
for. Both change in the same steps only, one after the other and after all that can fail, so that
after any calls each entry of the table stands for one finder, and the directories are those whose
archive could be read at the time of a call, in the order in which it could be read first. A call
that cannot read an archive leaves both alone, and so does a call for a directory that has a finder:
that one serves the modules as they were read first, whatever the archive holds by now. The value of
a directory is read after the finder is there, which stays if the value cannot be read.

## Main definitions

* `HostCall.archive` — what is read at the time of a call.
* `Host.Keeps` — a host has the finders of what was read.

## Main results

* `Hosting.run_install` — what reading the archive of a directory comes to.
* `Host.Keeps.perform`, `Host.Keeps.after` — one more call, and any number of them.
* `Host.one_finder_per_directory` — the finders after any calls, and what the next call does.
-/

namespace HandlerBundle

namespace Hosting

/-- **What reading the archive of a directory comes to.** -/
theorem run_install (host : Host) (directory : TreePath) :
    (install directory).run.run host =
      match host.installed.lookup directory, host.readArchive directory with
      | some i, _ => (.ok i, host)
      | none, .error e => (.error e, host)
      | none, .ok f =>
        (.ok host.finders.length,
          (host.append f).register directory host.finders.length) := by
  have hget : (get : Hosting Host).run.run host = (.ok host, host) := rfl
  rw [install, Stateful.run_bind, hget]
  dsimp only
  cases host.installed.lookup directory with
  | some i => rfl
  | none =>
    dsimp only
    rw [Stateful.run_bind, Stateful.run_ofExcept]
    cases host.readArchive directory <;> rfl

/-- The value of a directory is read after its finder is there, and this leaves the host alone. -/
theorem run_restore (h : Heap) (table : ModuleTable) (directory : TreePath)
    (functionType : String) (host : Host) :
    (restore h table directory functionType).run.run host =
      match (install directory).run.run host with
      | (.ok _, host') => (host'.readValue h table directory functionType, host')
      | (.error e, host') => (.error e, host') := by
  rw [restore, Stateful.run_bind]
  rcases (install directory).run.run host with ⟨e | i, host'⟩
  · rfl
  · exact Stateful.run_ofExcept _ host'

end Hosting

namespace HostCall

/-- What reading the archive of the directory of a call comes to at the time of the call, with the
root of the files shown as `place`. -/
def archive (c : HostCall) (place : String) : Except Failure Finder :=
  (Host.start place c.files).readArchive c.directory

/-- What is read at the time of a call, if the archive can be read. -/
def read? (c : HostCall) (place : String) : Option Finder :=
  (c.archive place).toOption

/-- A call for a finder. -/
theorem run_perform_of_install {c : HostCall} (hrequest : c.request = .install) (host : Host) :
    c.perform.run.run host =
      match (Hosting.install c.directory).run.run { host with files := c.files } with
      | (.ok i, host') => (.ok (.finder i), host')
      | (.error e, host') => (.error e, host') := by
  rw [perform, Stateful.run_bind, Stateful.run_modify, hrequest]
  dsimp only
  rw [Stateful.run_bind]
  rcases (Hosting.install c.directory).run.run _ with ⟨e | i, host'⟩ <;> rfl

/-- A call for a value. -/
theorem run_perform_of_rehydrate {c : HostCall} {functionType : String}
    (hrequest : c.request = .rehydrate functionType) (host : Host) :
    c.perform.run.run host =
      match (Hosting.install c.directory).run.run { host with files := c.files } with
      | (.ok _, host') =>
        ((host'.readValue c.heap c.table c.directory functionType).map fun r => .value r.1 r.2,
          host')
      | (.error e, host') => (.error e, host') := by
  rw [perform, Stateful.run_bind, Stateful.run_modify, hrequest]
  dsimp only
  rw [Stateful.run_bind, Hosting.run_restore]
  rcases (Hosting.install c.directory).run.run _ with ⟨e | i, host'⟩
  · rfl
  · dsimp only
    rcases host'.readValue c.heap c.table c.directory functionType with e | ⟨h, id⟩ <;> rfl

/-- **What a call can do**: it finds the finder of its directory, or the archive cannot be read and
nothing happens, or the archive is read and its finder is put behind the others. -/
theorem perform_cases (c : HostCall) (host : Host) :
    let answer := (c.perform.run.run host).1
    let next := (c.perform.run.run host).2
    next.place = host.place ∧
      ((∃ i, host.installed.lookup c.directory = some i ∧ next.finders = host.finders ∧
          next.installed = host.installed ∧ (c.request = .install → answer = .ok (.finder i))) ∨
        (host.installed.lookup c.directory = none ∧ ∃ e, c.archive host.place = .error e ∧
          next.finders = host.finders ∧ next.installed = host.installed ∧ answer = .error e) ∨
        (host.installed.lookup c.directory = none ∧ ∃ f, c.archive host.place = .ok f ∧
          next.finders = host.finders ++ [f] ∧
          next.installed = host.installed ++ [(c.directory, host.finders.length)] ∧
          (c.request = .install → answer = .ok (.finder host.finders.length)))) := by
  have hread : { host with files := c.files }.readArchive c.directory = c.archive host.place := rfl
  have hinstall := Hosting.run_install { host with files := c.files } c.directory
  rw [hread] at hinstall
  dsimp only at hinstall
  cases hrequest : c.request with
  | install =>
    rw [run_perform_of_install hrequest, hinstall]
    cases hlookup : host.installed.lookup c.directory with
    | some i => exact ⟨rfl, .inl ⟨i, rfl, rfl, rfl, fun _ => rfl⟩⟩
    | none =>
      cases harchive : c.archive host.place with
      | error e => exact ⟨rfl, .inr (.inl ⟨rfl, e, rfl, rfl, rfl, rfl⟩)⟩
      | ok f => exact ⟨rfl, .inr (.inr ⟨rfl, f, rfl, rfl, rfl, fun _ => rfl⟩)⟩
  | rehydrate functionType =>
    rw [run_perform_of_rehydrate hrequest, hinstall]
    cases hlookup : host.installed.lookup c.directory with
    | some i => exact ⟨rfl, .inl ⟨i, rfl, rfl, rfl, nofun⟩⟩
    | none =>
      cases harchive : c.archive host.place with
      | error e => exact ⟨rfl, .inr (.inl ⟨rfl, e, rfl, rfl, rfl, rfl⟩)⟩
      | ok f => exact ⟨rfl, .inr (.inr ⟨rfl, f, rfl, rfl, rfl, nofun⟩)⟩

end HostCall

namespace Host

/-- The host has the finders of what was read: the first one of each directory, in the order in
which the directories were read first, and an entry of the table for each. -/
structure Keeps (host : Host) (read : List Finder) : Prop where
  table : host.installed = (host.finders.map (·.directory)).zipIdx
  directories : host.finders.map (·.directory) = (read.map (·.directory)).eraseDups
  first : ∀ f ∈ host.finders, read.find? (fun g => g.directory == f.directory) = some f

/-- Without duplicates no item is there twice. -/
theorem nodup_eraseDups {α : Type} [BEq α] [LawfulBEq α] (xs : List α) : xs.eraseDups.Nodup := by
  induction xs using List.reverseRec with
  | nil => exact List.nodup_nil
  | append_singleton xs x ih =>
    rw [List.eraseDups_append]
    by_cases hx : x ∈ xs
    · simpa [List.removeAll, hx] using ih
    · have hnew : ([x].removeAll xs).eraseDups.Nodup := by
        simp [List.removeAll, hx, List.eraseDups_cons]
      refine List.nodup_append.mpr ⟨ih, hnew, fun y hy z hz => ?_⟩
      obtain rfl : z = x := by simpa [List.removeAll, hx] using hz
      rintro rfl
      exact hx (List.mem_eraseDups.mp hy)

variable {host : Host} {read : List Finder} {directory : TreePath} {i : Nat}

theorem directory_readArchive {f : Finder} (hread : host.readArchive directory = .ok f) :
    f.directory = directory := by
  obtain ⟨bs, -, hrecords⟩ := bind_eq_ok_iff.mp hread
  obtain ⟨records, -, hf⟩ := bind_eq_ok_iff.mp hrecords
  obtain rfl := Except.ok.inj hf
  rfl

/-- What is read at the time of a call is the finder of its directory. -/
theorem directory_of_read? {c : HostCall} {place : String} {f : Finder}
    (hread : c.read? place = some f) : f.directory = c.directory := by
  rw [HostCall.read?] at hread
  cases harchive : c.archive place with
  | error e => rw [harchive] at hread; cases hread
  | ok g =>
    rw [harchive] at hread
    obtain rfl := Option.some.inj hread
    exact directory_readArchive harchive

namespace Keeps

theorem start (place : String) (files : FileTree) : (Host.start place files).Keeps [] where
  table := rfl
  directories := rfl
  first := nofun

/-- No two finders are of one directory. -/
theorem nodup (h : host.Keeps read) : (host.finders.map (·.directory)).Nodup :=
  h.directories ▸ nodup_eraseDups _

/-- An entry of the table is the place of a finder of its directory. -/
theorem mem_installed_iff (h : host.Keeps read) :
    (directory, i) ∈ host.installed ↔ ∃ f, host.finders[i]? = some f ∧ f.directory = directory := by
  rw [h.table, List.mem_zipIdx_iff_getElem?, List.getElem?_map, Option.map_eq_some_iff]

theorem lookup_eq_some_iff (h : host.Keeps read) :
    host.installed.lookup directory = some i ↔ (directory, i) ∈ host.installed := by
  rw [List.lookup_eq_some_iff]
  constructor
  · rintro ⟨before, others, heq, -⟩
    rw [heq]
    simp
  · intro hmem
    obtain ⟨before, others, heq⟩ := List.append_of_mem hmem
    have hnodup : (host.installed.map Prod.fst).Nodup := by
      rw [h.table, List.zipIdx_map_fst]
      exact h.nodup
    rw [heq, List.map_append, List.nodup_append] at hnodup
    refine ⟨before, others, heq, fun entry hentry => ?_⟩
    have hne := hnodup.2.2 _ (List.mem_map_of_mem hentry) directory (by simp)
    simpa using hne.symm

/-- A directory without an entry was not read. -/
theorem lookup_eq_none_iff (h : host.Keeps read) :
    host.installed.lookup directory = none ↔ directory ∉ read.map (·.directory) := by
  rw [← List.mem_eraseDups, ← h.directories, ← List.zipIdx_map_fst 0 (host.finders.map _),
    ← h.table, List.lookup_eq_none_iff, List.mem_map, not_exists]
  refine forall_congr' fun entry => ?_
  rw [not_and, bne_iff_ne, ne_comm]

/-- What is read again makes no difference. -/
theorem again (h : host.Keeps read) {others : List Finder}
    (hothers : ∀ f ∈ others, f.directory ∈ read.map (·.directory)) :
    host.Keeps (read ++ others) where
  table := h.table
  directories := by
    have hnone : (others.map (·.directory)).removeAll (read.map (·.directory)) = [] := by
      refine List.filter_eq_nil_iff.mpr fun directory hmem => ?_
      obtain ⟨f, hf, rfl⟩ := List.mem_map.mp hmem
      simpa using hothers f hf
    rw [h.directories, List.map_append, List.eraseDups_append, hnone, List.eraseDups_nil,
      List.append_nil]
  first f hf := by rw [List.find?_append, h.first f hf, Option.some_or]

/-- The finder of a directory that was not read before is put behind the others and entered. -/
theorem append (h : host.Keeps read) {f : Finder} (hf : f.directory ∉ read.map (·.directory)) :
    ((host.append f).register f.directory host.finders.length).Keeps (read ++ [f]) where
  table := by
    change host.installed ++ _ = ((host.finders ++ [f]).map _).zipIdx
    rw [h.table, List.map_append, List.zipIdx_append, List.length_map, Nat.zero_add]
    rfl
  directories := by
    have hnew : [f.directory].removeAll (read.map (·.directory)) = [f.directory] :=
      List.filter_eq_self.mpr fun directory hmem => by
        obtain rfl := List.mem_singleton.mp hmem
        simpa using hf
    change (host.finders ++ [f]).map _ = _
    rw [List.map_append, h.directories, List.map_append, List.eraseDups_append, List.map_singleton,
      hnew]
    rfl
  first g hg := by
    rw [List.find?_append]
    rcases List.mem_append.mp hg with hg | hg
    · rw [h.first g hg, Option.some_or]
    · obtain rfl := List.mem_singleton.mp hg
      have hnone : read.find? (fun f => f.directory == g.directory) = none := by
        refine List.find?_eq_none.mpr fun f hmem => ?_
        intro heq
        exact hf (beq_iff_eq.mp heq ▸ List.mem_map_of_mem hmem)
      rw [hnone, Option.none_or]
      simp

/-- Only the finders and the table count. -/
theorem congr (h : host.Keeps read) {next : Host} (hfinders : next.finders = host.finders)
    (hinstalled : next.installed = host.installed) : next.Keeps read where
  table := by rw [hinstalled, h.table, hfinders]
  directories := by rw [hfinders, h.directories]
  first := by rw [hfinders]; exact h.first

/-- **One more call.** -/
theorem perform (h : host.Keeps read) (c : HostCall) :
    (c.perform.run.run host).2.Keeps (read ++ (c.read? host.place).toList) := by
  obtain ⟨-, hcases⟩ := c.perform_cases host
  rcases hcases with ⟨i, hlookup, hfinders, hinstalled, -⟩ |
    ⟨-, e, harchive, hfinders, hinstalled, -⟩ | ⟨hlookup, f, harchive, hfinders, hinstalled, -⟩
  · refine (h.congr hfinders hinstalled).again fun f hf => ?_
    rw [directory_of_read? (Option.mem_toList.mp hf)]
    by_contra hmem
    cases hlookup.symm.trans (h.lookup_eq_none_iff.mpr hmem)
  · rw [HostCall.read?, harchive]
    change Keeps _ (read ++ [])
    rw [List.append_nil]
    exact h.congr hfinders hinstalled
  · have hdirectory : f.directory = c.directory := directory_readArchive harchive
    rw [← hdirectory] at hlookup hinstalled
    rw [HostCall.read?, harchive]
    exact (h.append (h.lookup_eq_none_iff.mp hlookup)).congr hfinders hinstalled

/-- **Any number of calls.** -/
theorem after (h : host.Keeps read) (calls : List HostCall) :
    (host.after calls).Keeps (read ++ calls.filterMap (·.read? host.place)) := by
  induction calls generalizing host read with
  | nil =>
    rw [List.filterMap_nil, List.append_nil]
    exact h
  | cons c calls ih =>
    have hnext := ih (h.perform c)
    rw [(c.perform_cases host).1, List.append_assoc] at hnext
    rw [List.filterMap_cons]
    cases hread : c.read? host.place <;> rw [hread] at hnext <;> exact hnext

end Keeps

theorem after_nil (host : Host) : host.after [] = host := rfl

/-- Calls only add to what is there. -/
theorem prefix_after (host : Host) (calls : List HostCall) :
    host.finders <+: (host.after calls).finders ∧
      host.installed <+: (host.after calls).installed := by
  induction calls generalizing host with
  | nil => exact ⟨List.prefix_rfl, List.prefix_rfl⟩
  | cons c calls ih =>
    obtain ⟨hfinders, hinstalled⟩ := ih (c.perform.run.run host).2
    refine ⟨List.IsPrefix.trans ?_ hfinders, List.IsPrefix.trans ?_ hinstalled⟩
    · obtain ⟨-, ⟨i, -, h, -⟩ | ⟨-, e, -, h, -⟩ | ⟨-, f, -, h, -⟩⟩ := c.perform_cases host
      · exact h ▸ List.prefix_rfl
      · exact h ▸ List.prefix_rfl
      · exact h ▸ List.prefix_append _ _
    · obtain ⟨-, ⟨i, -, -, h, -⟩ | ⟨-, e, -, -, h, -⟩ | ⟨-, f, -, -, h, -⟩⟩ := c.perform_cases host
      · exact h ▸ List.prefix_rfl
      · exact h ▸ List.prefix_rfl
      · exact h ▸ List.prefix_append _ _

theorem place_after (host : Host) (calls : List HostCall) :
    (host.after calls).place = host.place := by
  induction calls generalizing host with
  | nil => rfl
  | cons c calls ih => exact (ih _).trans (c.perform_cases host).1

variable {c : HostCall} {place : String}

/-- A call for a directory that was not read yet: if its archive cannot be read, the call fails and
leaves the finders and the table alone; otherwise a finder for it is put behind the others and
entered, also if the value that is asked for cannot be read then. -/
theorem Keeps.perform_of_notMem (h : host.Keeps read)
    (hnew : c.directory ∉ host.finders.map (·.directory)) :
    (∀ e, c.archive host.place = .error e →
      (c.perform.run.run host).1 = .error e ∧
      (c.perform.run.run host).2.finders = host.finders ∧
      (c.perform.run.run host).2.installed = host.installed) ∧
    ∀ f, c.archive host.place = .ok f →
      (c.request = .install → (c.perform.run.run host).1 = .ok (.finder host.finders.length)) ∧
      (c.perform.run.run host).2.finders = host.finders ++ [f] ∧
      (c.perform.run.run host).2.installed =
        host.installed ++ [(c.directory, host.finders.length)] := by
  rw [h.directories, List.mem_eraseDups] at hnew
  have hnone := h.lookup_eq_none_iff.mpr hnew
  obtain ⟨-, ⟨i, hsome, -⟩ | ⟨-, e, harchive, hfinders, hinstalled, hanswer⟩ |
    ⟨-, f, harchive, hfinders, hinstalled, hanswer⟩⟩ := c.perform_cases host
  · cases hnone.symm.trans hsome
  · refine ⟨fun e' he' => ?_, fun f hf => ?_⟩
    · obtain rfl := Except.error.inj (harchive.symm.trans he')
      exact ⟨hanswer, hfinders, hinstalled⟩
    · cases harchive.symm.trans hf
  · refine ⟨fun e he => ?_, fun f' hf' => ?_⟩
    · cases harchive.symm.trans he
    · obtain rfl := Except.ok.inj (harchive.symm.trans hf')
      exact ⟨hanswer, hfinders, hinstalled⟩

/-- A call for a directory with an entry gets its finder and leaves the finders and the table
alone. -/
theorem Keeps.perform_of_mem (h : host.Keeps read) (hmem : (c.directory, i) ∈ host.installed) :
    (c.request = .install → (c.perform.run.run host).1 = .ok (.finder i)) ∧
      (c.perform.run.run host).2.finders = host.finders ∧
      (c.perform.run.run host).2.installed = host.installed := by
  have hsome := h.lookup_eq_some_iff.mpr hmem
  obtain ⟨-, ⟨j, hlookup, hfinders, hinstalled, hanswer⟩ | ⟨hnone, -⟩ | ⟨hnone, -⟩⟩ :=
    c.perform_cases host
  · obtain rfl := Option.some.inj (hlookup.symm.trans hsome)
    exact ⟨hanswer, hfinders, hinstalled⟩
  · cases hnone.symm.trans hsome
  · cases hnone.symm.trans hsome

/-- **One finder for each directory.** After any calls the table has an entry for each finder, and
there is one finder for each directory whose archive could be read at the time of a call, in the
order in which the directories were read first. The next call for another directory adds a finder
and its entry if the archive can be read, and leaves both lists alone if not. Any later call for a
directory with an entry gets the same finder and leaves both lists alone. -/
theorem one_finder_per_directory (place : String) (files : FileTree) (calls : List HostCall) :
    let host := (Host.start place files).after calls
    host.Keeps (calls.filterMap (·.read? place)) ∧ (host.finders.map (·.directory)).Nodup ∧
    ∀ c : HostCall,
      (c.directory ∉ host.finders.map (·.directory) →
        (∀ e, c.archive place = .error e →
          (c.perform.run.run host).1 = .error e ∧
          (c.perform.run.run host).2.finders = host.finders ∧
          (c.perform.run.run host).2.installed = host.installed) ∧
        ∀ f, c.archive place = .ok f →
          (c.request = .install → (c.perform.run.run host).1 = .ok (.finder host.finders.length)) ∧
          (c.perform.run.run host).2.finders = host.finders ++ [f] ∧
          (c.perform.run.run host).2.installed =
            host.installed ++ [(c.directory, host.finders.length)]) ∧
      ∀ i more, (c.directory, i) ∈ host.installed →
        let later := host.after more
        (∃ f, host.finders[i]? = some f ∧ later.finders[i]? = some f ∧
          f.directory = c.directory) ∧
        (c.request = .install → (c.perform.run.run later).1 = .ok (.finder i)) ∧
        (c.perform.run.run later).2.finders = later.finders ∧
        (c.perform.run.run later).2.installed = later.installed := by
  intro host
  have hkeeps : host.Keeps (calls.filterMap (·.read? place)) :=
    (Keeps.start place files).after calls
  have hplace : host.place = place := place_after _ calls
  refine ⟨hkeeps, hkeeps.nodup, fun c => ⟨fun hnew => ?_, fun i more hmem => ?_⟩⟩
  · rw [← hplace]
    exact hkeeps.perform_of_notMem hnew
  · intro later
    obtain ⟨hfinders, hinstalled⟩ := prefix_after host more
    obtain ⟨f, hf, hdirectory⟩ := hkeeps.mem_installed_iff.mp hmem
    have hstays : (host.after more).finders[i]? = some f := by
      obtain ⟨hi, rfl⟩ := List.getElem?_eq_some_iff.mp hf
      exact List.prefix_iff_getElem?.mp hfinders i hi
    refine ⟨⟨f, hf, hstays, hdirectory⟩, ?_⟩
    exact (hkeeps.after more).perform_of_mem (hinstalled.subset hmem)

/-- A directory whose archive holds the given bytes. -/
def shopFiles (archive : Bytes) : FileTree where
  directories := [["srv"], ["srv", "shop"]]
  files := [(["srv", "shop", archiveFile], .bytes archive)]

/-- An archive without modules. -/
def emptyArchive : Bytes := [0x46, 0x50, 0x4b, 0x4d, 1, 0, 0, 0, 0]

/-- A call of those who work in a directory. -/
def callIn (workingDirectory : TreePath) (files : FileTree) (path : String)
    (request : HostRequest) : HostCall :=
  ⟨files, workingDirectory, .empty, .empty, path, request⟩

/-- The archive of a shop is missing at first, and broken in the end. In between a value is asked
for, which is missing as well, but the finder is there from then on, and it is the same for another
path to the shop. -/
theorem one_finder_per_directory_shop :
    let early := callIn ["srv"] .empty "shop" .install
    let value := callIn ["srv"] (shopFiles emptyArchive) "./shop/" (.rehydrate "timer")
    let late := callIn [] (shopFiles []) "/srv/../srv//shop" .install
    let host := (Host.start "" .empty).after [early, value]
    host.installed = [(["srv", "shop"], 0)] ∧ (value.perform.run.run host).1.isOk = false ∧
      (late.perform.run.run host).1 = .ok (.finder 0) ∧
      (late.perform.run.run host).2.installed = host.installed := by
  intro early value late host
  have hentry : host.installed = [(["srv", "shop"], 0)] := by decide +kernel
  have hmissing : (value.perform.run.run host).1.isOk = false := by decide +kernel
  have hmem : (late.directory, 0) ∈ host.installed := by decide +kernel
  have hcalls := one_finder_per_directory "" .empty [early, value]
  have hlate := (hcalls.2.2 late).2 0 [] hmem
  have hhost : (Host.start "" .empty).after [early, value] = host := rfl
  rw [hhost, after_nil] at hlate
  exact ⟨hentry, hmissing, hlate.2.1 rfl, hlate.2.2.2⟩

end Host

end HandlerBundle
