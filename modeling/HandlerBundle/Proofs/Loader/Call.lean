import HandlerBundle.Proofs.Loader.Import

/-!
# Calling the entry point

Once it is imported, the entry point keeps nothing but the captured value, which it restores when it
is called for the first time. What a call comes to can be told without the two programs.

## Main definitions

* `Session` — what calls have come to, without the programs.
* `Session.call` — what the next call comes to.
* `Session.machine` — the machine that stands for a session.

## Main results

* `callEntry_run` — a call of the entry point is one of the session.
-/

namespace HandlerBundle.Generated

open Run

/-! ### Sessions -/

/-- The captured value, restored from the directory of the artifact. -/
def restoredTarget (handler : Descriptor) (file : String) : Value :=
  .returned (.member (.imported "funcpack_rehydrate") "rehydrate")
    [artifactDirectory file, .text handler.written.functionType] []

/-- The call of the captured value that gives every parameter its argument. -/
def targetCall (handler : Descriptor) (file : String) (arguments : List Value) : Value :=
  .returned (restoredTarget handler file) []
    ((handler.parameterNames.map composedText).zip arguments)

/-- Takes the lock of the loader. -/
def lockEntry : Value := .returned (.member loaderLock "__enter__") [] []

/-- Gives the lock of the loader back. -/
def lockExit : Value := .returned (.member loaderLock "__exit__") [] []

/-- What calls of a handler have come to: whether its captured value has been restored, and the
calls of imported functions so far. -/
structure Session where
  restored : Bool
  calls : List Value

namespace Session

/-- Restores the captured value under the lock, unless that has been done before. -/
def restore (library : Library) (handler : Descriptor) (file : String) (session : Session) :
    Except RunError Unit × Session :=
  if session.restored then (.ok ⟨⟩, session)
  else
    let calls := session.calls ++ [lockEntry, restoredTarget handler file, lockExit]
    if library.raises (session.calls ++ [lockEntry]) (restoredTarget handler file) then
      (.error (.raised (restoredTarget handler file)), ⟨false, calls⟩)
    else (.ok ⟨⟩, ⟨true, calls⟩)

section

variable {library : Library} {handler : Descriptor} {file : String} {calls : List Value}

theorem restore_of_restored :
    restore library handler file ⟨true, calls⟩ = (.ok ⟨⟩, ⟨true, calls⟩) :=
  if_pos rfl

theorem restore_of_raises
    (h : library.raises (calls ++ [lockEntry]) (restoredTarget handler file) = true) :
    restore library handler file ⟨false, calls⟩ = (.error (.raised (restoredTarget handler file)),
      ⟨false, calls ++ [lockEntry, restoredTarget handler file, lockExit]⟩) :=
  if_pos h

theorem restore_of_not_raises
    (h : ¬library.raises (calls ++ [lockEntry]) (restoredTarget handler file) = true) :
    restore library handler file ⟨false, calls⟩ =
      (.ok ⟨⟩, ⟨true, calls ++ [lockEntry, restoredTarget handler file, lockExit]⟩) :=
  if_neg h

end

/-- Calls the captured value once it is restored, given one argument for each parameter. -/
def call (library : Library) (handler : Descriptor) (file : String) (session : Session)
    (arguments : List Value) : Except RunError Value × Session :=
  if arguments.length = handler.parameterNames.length then
    match session.restore library handler file with
    | (.error error, session) => (.error error, session)
    | (.ok _, session) =>
      (library.outcome session.calls (targetCall handler file arguments),
        { session with calls := session.calls ++ [targetCall handler file arguments] })
  else (.error (.arguments "main"), session)

/-- The names of the loader, with the captured value if it has been restored. -/
def loaderNames (handler : Descriptor) (file : String) (session : Session) : NameTable :=
  if session.restored then
    ("__funcpack_cached", restoredTarget handler file) :: Generated.loaderNames handler
  else Generated.loaderNames handler

/-- The machine that stands for a session, in a call with the given variables. -/
def machine (handler : Descriptor) (file : String) (session : Session) (names : NameTable) :
    Machine where
  entry := entryNames handler file
  loader := session.loaderNames handler file
  locals := names
  calls := session.calls

end Session

variable {library : Library} {handler : Descriptor} {file : String} {caller : Caller} {m : Machine}
  {n : String} {v : Value} {vs arguments : List Value} {names : NameTable}

/-! ### The names of the two programs -/

/-- Where the function of the loader is run. -/
def loaderFrame (handler : Descriptor) : Frame := ⟨.loader, (loaderRoutine handler).localNames⟩

/-- Where the function of the entry point is run. -/
def entryFrame (handler : Descriptor) : Frame := ⟨.entry, (entryRoutine handler).localNames⟩

/-- The variables of the loader that its function refers to. -/
def sharedNames : List String :=
  ["__funcpack_cached", "__funcpack_lock", "__funcpack_runtime", "__funcpack_function_type"]

theorem composedText_of_mem_sharedNames (hn : n ∈ sharedNames) : composedText n = n := by
  revert n
  decide

/-- Names with their values by place are found again if they are different in composed form. -/
theorem find?_zip {ns : List String} (hdistinct : (ns.map composedText).Nodup) {p : String × Value}
    (hp : p ∈ ns.zip vs) :
    NameTable.find? ((ns.map composedText).zip vs) p.1 = some p.2 := by
  induction ns generalizing vs with
  | nil => exact absurd hp (List.not_mem_nil)
  | cons n ns ih =>
    obtain _ | ⟨v, vs⟩ := vs
    · exact absurd hp List.not_mem_nil
    · rw [List.map_cons, List.nodup_cons] at hdistinct
      rw [List.zip_cons_cons, List.mem_cons] at hp
      obtain rfl | hp := hp
      · exact List.lookup_cons_self
      · have hne : composedText p.1 ≠ composedText n := by
          intro heq
          exact hdistinct.1 (heq ▸ List.mem_map_of_mem (List.of_mem_zip hp).1)
        have htail := ih hdistinct.2 hp
        rw [NameTable.find?] at htail ⊢
        rwa [List.map_cons, List.zip_cons_cons, List.lookup_cons, beq_eq_false_iff_ne.mpr hne]

namespace HasReadableNames

/-- The variables of the loader are none of the call of its function. -/
theorem notMem_localNames (h : HasReadableNames handler) (hn : n ∈ sharedNames) :
    composedText n ∉ (loaderFrame handler).localNames := by
  have hown : ∀ n ∈ sharedNames, isReservedName n = true ∧
      n ∉ [directoryParameter] ++ ["__funcpack_target", "__funcpack_target"] := by decide
  obtain ⟨hreserved, hrest⟩ := hown n hn
  rw [composedText_of_mem_sharedNames hn, loaderFrame, localNames_loaderRoutine,
    formals_loaderRoutine, List.append_assoc, List.mem_append, not_or]
  exact ⟨h.notMem_of_isReservedName hreserved, hrest⟩

theorem read_shared (h : HasReadableNames handler) (hn : n ∈ sharedNames)
    (hv : m.loader.find? n = some v) : ((loaderFrame handler).read n).run.run m = (.ok v, m) :=
  Frame.read_run_of_global (h.notMem_localNames hn) hv

/-- The function of the loader is none of the variables that it refers to. -/
theorem find?_loaderNames (h : HasReadableNames handler) (hn : n ∈ sharedNames) :
    (loaderNames handler).find? n = NameTable.find? ((loaderNames handler).drop 1) n := by
  have hending : ∀ n ∈ sharedNames, ¬"_execute".toList <:+ n.toList := by decide
  have hne : n ≠ composedText handler.loaderFunction :=
    (ne_of_suffix h.ending (hending n hn)).symm
  rw [NameTable.find?, composedText_of_mem_sharedNames hn, loaderNames, List.lookup_cons,
    beq_eq_false_iff_ne.mpr hne, NameTable.find?, composedText_of_mem_sharedNames hn]
  rfl

/-- The captured value is found in the machine of a session if it has been restored. -/
theorem find?_cached (h : HasReadableNames handler) (session : Session) :
    (session.loaderNames handler file).find? "__funcpack_cached" =
      some (if session.restored then restoredTarget handler file else .none) := by
  obtain ⟨_ | _, calls⟩ := session
  · exact h.find?_loaderNames (by decide)
  · rw [NameTable.find?, composedText_of_mem_sharedNames (by decide)]
    exact List.lookup_cons_self

end HasReadableNames

/-! ### The function of the loader -/

theorem target_mem_localNames (handler : Descriptor) :
    composedText "__funcpack_target" ∈ (loaderFrame handler).localNames := by
  rw [composedText_of_ascii (by decide), loaderFrame, localNames_loaderRoutine]
  simp

theorem directory_mem_localNames (handler : Descriptor) :
    composedText directoryParameter ∈ (loaderFrame handler).localNames := by
  rw [composedText_of_ascii (by decide), loaderFrame, localNames_loaderRoutine,
    formals_loaderRoutine]
  simp

theorem parameter_mem_localNames (hn : n ∈ handler.parameterNames) :
    composedText n ∈ (loaderFrame handler).localNames := by
  rw [loaderFrame, localNames_loaderRoutine, formals_loaderRoutine]
  exact List.mem_append_left _ (List.mem_append_left _ (List.mem_map_of_mem hn))

/-- The variables of a call of the loader's function. -/
def loaderLocals (handler : Descriptor) (file : String) (arguments : List Value) : NameTable :=
  (handler.parameterNames.map composedText).zip arguments ++
    [(directoryParameter, artifactDirectory file)]

namespace HasReadableNames

theorem find?_loaderLocals (h : HasReadableNames handler) {p : String × Value}
    (hp : p ∈ handler.parameterNames.zip arguments) :
    (loaderLocals handler file arguments).find? p.1 = some p.2 := by
  have hzip := find?_zip h.distinct hp
  rw [NameTable.find?] at hzip ⊢
  rw [loaderLocals, List.lookup_append, hzip, Option.some_or]

theorem find?_loaderLocals_directory (h : HasReadableNames handler) :
    (loaderLocals handler file arguments).find? directoryParameter =
      some (artifactDirectory file) := by
  have hnone : ((handler.parameterNames.map composedText).zip arguments).lookup
      directoryParameter = none := by
    rw [List.lookup_eq_none_iff]
    intro p hp
    rw [bne_iff_ne]
    intro heq
    exact h.notMem_of_isReservedName (n := directoryParameter) (by decide)
      (heq ▸ (List.of_mem_zip hp).1)
  rw [NameTable.find?, composedText_of_ascii (by decide), loaderLocals, List.lookup_append, hnone,
    List.lookup_cons_self]
  rfl

theorem composedText_ne_target (h : HasReadableNames handler) (hn : n ∈ handler.parameterNames) :
    composedText n ≠ composedText "__funcpack_target" := by
  rw [composedText_of_ascii (s := "__funcpack_target") (by decide)]
  intro heq
  have hunreserved := h.unreserved n hn
  rw [heq] at hunreserved
  revert hunreserved
  decide

/-- To give the captured value a name of its own leaves the parameters alone. -/
theorem find?_bind_target (h : HasReadableNames handler)
    (hparameters : ∀ p ∈ handler.parameterNames.zip arguments, names.find? p.1 = some p.2)
    (v : Value) : ∀ p ∈ handler.parameterNames.zip arguments,
      (names.bind "__funcpack_target" v).find? p.1 = some p.2 := by
  intro p hp
  rw [NameTable.find?_bind_of_ne (h.composedText_ne_target (List.of_mem_zip hp).1)]
  exact hparameters p hp

theorem find?_bind_directory (h : HasReadableNames handler) (v : Value) :
    ((loaderLocals handler file arguments).bind "__funcpack_target" v).find? directoryParameter =
      some (artifactDirectory file) := by
  have hne : composedText directoryParameter ≠ composedText "__funcpack_target" := by
    rw [composedText_of_ascii (by decide), composedText_of_ascii (by decide)]
    decide
  rw [NameTable.find?_bind_of_ne hne, h.find?_loaderLocals_directory]

end HasReadableNames

/-- The captured value is restored from the directory that the loader was given. -/
theorem rehydrate_run (library : Library) (h : HasReadableNames handler)
    (hdirectory : names.find? directoryParameter = some (artifactDirectory file)) (depth : ℕ)
    (calls : List Value) :
    ((Expression.call (.member (.name "__funcpack_runtime") "rehydrate")
      [.name directoryParameter, .name "__funcpack_function_type"] []).eval library
        (loaderFrame handler) (callValue library (loaderProgram handler) depth)).run.run
          (Session.machine handler file ⟨false, calls⟩ names) =
      (library.outcome calls (restoredTarget handler file),
        Session.machine handler file ⟨false, calls ++ [restoredTarget handler file]⟩ names) := by
  let caller := callValue library (loaderProgram handler) depth
  let m := Session.machine handler file ⟨false, calls⟩ names
  have hruntime : ((Expression.name "__funcpack_runtime").eval library (loaderFrame handler)
      caller).run.run m = (.ok (.imported "funcpack_rehydrate"), m) :=
    Expression.name_run (h.read_shared (by decide) (h.find?_loaderNames (by decide)))
  have hrehydrate : ((Expression.member (.name "__funcpack_runtime") "rehydrate").eval library
      (loaderFrame handler) caller).run.run m =
        (.ok (.member (.imported "funcpack_rehydrate") "rehydrate"), m) := by
    rw [Expression.member_run hruntime, memberOf_imported, composedText_of_ascii (by decide)]
    rfl
  have htype : ((Expression.name "__funcpack_function_type").eval library (loaderFrame handler)
      caller).run.run m = (.ok (.text handler.written.functionType), m) :=
    Expression.name_run (h.read_shared (by decide) (h.find?_loaderNames (by decide)))
  have harguments : (Expression.evalAll library (loaderFrame handler) caller
      [.name directoryParameter, .name "__funcpack_function_type"]).run.run m =
        (.ok [artifactDirectory file, .text handler.written.functionType], m) :=
    Expression.evalAll_cons_run
      (Expression.name_run (Frame.read_run_of_local (directory_mem_localNames handler) hdirectory))
      (Expression.evalAll_cons_run htype (Expression.evalAll_nil_run m))
  have hkeywords : ((loaderFrame handler).readKeywords []).run.run m = (.ok [], m) := rfl
  refine (Expression.call_run hrehydrate harguments hkeywords).trans ?_
  change (callValue library (loaderProgram handler) depth _ _ _).run.run m = _
  rw [callValue_member_imported, Library.call_run]
  rfl

/-- The captured value is restored under the lock, which is given back whatever happens. -/
theorem restoreStatement_run (h : HasReadableNames handler)
    (hdirectory : names.find? directoryParameter = some (artifactDirectory file)) (depth : ℕ)
    (calls : List Value) :
    (restoreStatement.exec library (loaderFrame handler)
      (callValue library (loaderProgram handler) depth)).run.run
        (Session.machine handler file ⟨false, calls⟩ names) =
      if library.raises (calls ++ [lockEntry]) (restoredTarget handler file) then
        (.error (.raised (restoredTarget handler file)), Session.machine handler file
          ⟨false, calls ++ [lockEntry, restoredTarget handler file, lockExit]⟩ names)
      else (.ok none, Session.machine handler file
        ⟨true, calls ++ [lockEntry, restoredTarget handler file, lockExit]⟩
        (names.bind "__funcpack_target" (restoredTarget handler file))) := by
  let caller := callValue library (loaderProgram handler) depth
  let m := Session.machine handler file ⟨false, calls⟩ names
  let m₁ := Session.machine handler file ⟨false, calls ++ [lockEntry]⟩ names
  have hlock : ((Expression.name "__funcpack_lock").eval library (loaderFrame handler)
      caller).run.run m = (.ok loaderLock, m) :=
    Expression.name_run (h.read_shared (by decide) (h.find?_loaderNames (by decide)))
  have hnone : ((Expression.name "__funcpack_cached").eval library (loaderFrame handler)
      caller).run.run m₁ = (.ok .none, m₁) :=
    Expression.name_run (h.read_shared (by decide) (h.find?_loaderNames (by decide)))
  have hcondition := Expression.isNone_run hnone
  have hcall := rehydrate_run library h hdirectory depth (calls ++ [lockEntry])
  have hcalls : calls ++ [lockEntry] ++ [restoredTarget handler file] ++ [lockExit] =
      calls ++ [lockEntry, restoredTarget handler file, lockExit] := by
    simp only [List.append_assoc, List.cons_append, List.nil_append]
  rw [← hcalls]
  split
  · next hraises =>
    rw [Library.outcome, if_pos hraises] at hcall
    have hassign := Statement.assign_run_of_error (n := "__funcpack_cached") hcall
    have hinner := (Statement.execAll_singleton_run _ _).trans hassign
    have hif := (Statement.ifThen_run_of_true hcondition).trans hinner
    exact Statement.within_run_of_error hlock (Statement.execAll_cons_run_of_error hif)
  · next hraises =>
    rw [Library.outcome, if_neg hraises] at hcall
    let calls₂ := calls ++ [lockEntry] ++ [restoredTarget handler file]
    let m₂ := Session.machine handler file ⟨false, calls₂⟩ names
    let m₃ := Session.machine handler file ⟨true, calls₂⟩ names
    have hwrite : ((loaderFrame handler).write "__funcpack_cached"
        (restoredTarget handler file)).run.run m₂ = (.ok ⟨⟩, m₃) := by
      rw [Frame.write_run_of_global (h.notMem_localNames (by decide)), loaderFrame,
        Machine.bindGlobal, NameTable.bind, composedText_of_mem_sharedNames (by decide)]
      rfl
    have hassign := Statement.assign_run hcall hwrite
    have hinner := (Statement.execAll_singleton_run _ _).trans hassign
    have hif := (Statement.ifThen_run_of_true hcondition).trans hinner
    have hcached : ((Expression.name "__funcpack_cached").eval library (loaderFrame handler)
        caller).run.run m₃ = (.ok (restoredTarget handler file), m₃) :=
      Expression.name_run (h.read_shared (by decide) (h.find?_cached ⟨true, calls₂⟩))
    have hlast := (Statement.execAll_singleton_run _ _).trans
      (Statement.assign_run hcached (Frame.write_run_of_local (target_mem_localNames handler)))
    exact Statement.within_run_of_ok hlock ((Statement.execAll_cons_run hif).trans hlast)

/-- What the loader's function knows before it calls the captured value. -/
structure HasTarget (handler : Descriptor) (file : String) (arguments : List Value)
    (names : NameTable) : Prop where
  target : names.find? "__funcpack_target" = some (restoredTarget handler file)
  parameters : ∀ p ∈ handler.parameterNames.zip arguments, names.find? p.1 = some p.2

theorem HasTarget.bind (h : HasReadableNames handler)
    (hparameters : ∀ p ∈ handler.parameterNames.zip arguments, names.find? p.1 = some p.2) :
    HasTarget handler file arguments
      (names.bind "__funcpack_target" (restoredTarget handler file)) where
  target := NameTable.find?_bind_self _ _ _
  parameters := h.find?_bind_target hparameters _

/-- The captured value is restored unless it is at hand, before it is called. -/
theorem restoring_run (library : Library) (file : String) (h : HasReadableNames handler)
    (depth : ℕ) (session : Session) (arguments : List Value) (rest : List Statement) :
    ∃ names, (Statement.execAll library (loaderFrame handler)
      (callValue library (loaderProgram handler) depth)
        (.assign "__funcpack_target" (.name "__funcpack_cached") ::
          .ifThen (.isNone (.name "__funcpack_target")) [restoreStatement] :: rest)).run.run
        (session.machine handler file (loaderLocals handler file arguments)) =
      (match session.restore library handler file with
        | (.error error, session) => (.error error, session.machine handler file names)
        | (.ok _, session) => (Statement.execAll library (loaderFrame handler)
          (callValue library (loaderProgram handler) depth) rest).run.run
            (session.machine handler file names)) ∧
      ((session.restore library handler file).1 = .ok ⟨⟩ →
        HasTarget handler file arguments names) := by
  let caller := callValue library (loaderProgram handler) depth
  let m := session.machine handler file (loaderLocals handler file arguments)
  let cached : Value := if session.restored then restoredTarget handler file else .none
  let names := (loaderLocals handler file arguments).bind "__funcpack_target" cached
  let m₁ := session.machine handler file names
  have hcached : ((Expression.name "__funcpack_cached").eval library (loaderFrame handler)
      caller).run.run m = (.ok cached, m) :=
    Expression.name_run (h.read_shared (by decide) (h.find?_cached session))
  have hassign : ((Statement.assign "__funcpack_target" (.name "__funcpack_cached")).exec library
      (loaderFrame handler) caller).run.run m = (.ok none, m₁) :=
    Statement.assign_run hcached (Frame.write_run_of_local (target_mem_localNames handler))
  have htarget : names.find? "__funcpack_target" = some cached := NameTable.find?_bind_self _ _ _
  have hname : ((Expression.name "__funcpack_target").eval library (loaderFrame handler)
      caller).run.run m₁ = (.ok cached, m₁) :=
    Expression.name_run (Frame.read_run_of_local (target_mem_localNames handler) htarget)
  have hcondition := Expression.isNone_run hname
  have hparameters : ∀ p ∈ handler.parameterNames.zip arguments,
      (loaderLocals handler file arguments).find? p.1 = some p.2 := fun _ => h.find?_loaderLocals
  obtain ⟨_ | _, calls⟩ := session
  · have hrestore := (Statement.ifThen_run_of_true hcondition).trans
      ((Statement.execAll_singleton_run _ _).trans
        (restoreStatement_run h (h.find?_bind_directory cached) depth calls))
    split at hrestore
    · next hraises =>
      rw [Session.restore_of_raises hraises]
      refine ⟨names, ?_, nofun⟩
      exact (Statement.execAll_cons_run hassign).trans
        (Statement.execAll_cons_run_of_error hrestore)
    · next hraises =>
      rw [Session.restore_of_not_raises hraises]
      refine ⟨names.bind "__funcpack_target" (restoredTarget handler file), ?_, fun _ =>
        .bind h (h.find?_bind_target hparameters cached)⟩
      exact (Statement.execAll_cons_run hassign).trans (Statement.execAll_cons_run hrestore)
  · rw [Session.restore_of_restored]
    refine ⟨names, ?_, fun _ => .bind h hparameters⟩
    exact (Statement.execAll_cons_run hassign).trans
      (Statement.execAll_cons_run (Statement.ifThen_run_of_false hcondition))

/-- The captured value is called with every argument under the name of its parameter. -/
theorem finalCall_run (hlength : handler.parameterNames.length = arguments.length)
    (htarget : m.locals.find? "__funcpack_target" = some (restoredTarget handler file))
    (hparameters : ∀ p ∈ handler.parameterNames.zip arguments, m.locals.find? p.1 = some p.2)
    (depth : ℕ) :
    ((Statement.returns (.call (.name "__funcpack_target") []
      (handler.parameterNames.map fun n => (n, n)))).exec library (loaderFrame handler)
        (callValue library (loaderProgram handler) depth)).run.run m =
      ((library.outcome m.calls (targetCall handler file arguments)).map some,
        { m with calls := m.calls ++ [targetCall handler file arguments] }) := by
  have hname : ((Expression.name "__funcpack_target").eval library (loaderFrame handler)
      (callValue library (loaderProgram handler) depth)).run.run m =
        (.ok (restoredTarget handler file), m) :=
    Expression.name_run (Frame.read_run_of_local (target_mem_localNames handler) htarget)
  have hreads : ∀ p ∈ handler.parameterNames.zip arguments,
      ((loaderFrame handler).read p.1).run.run m = (.ok p.2, m) := fun p hp =>
    Frame.read_run_of_local (parameter_mem_localNames (List.of_mem_zip hp).1) (hparameters p hp)
  have hcall := Expression.call_run hname (Expression.evalAll_nil_run m)
    (Expression.readKeywords_run hlength hreads)
  rw [restoredTarget, callValue_returned, Library.call_run] at hcall
  exact Statement.returns_run hcall

/-- The variables of a call are the parameters with their arguments. -/
theorem bindArguments_loaderRoutine (h : HasReadableNames handler)
    (hlength : handler.parameterNames.length = arguments.length) :
    bindArguments (loaderRoutine handler).formals (arguments ++ [artifactDirectory file]) [] =
      some (loaderLocals handler file arguments) := by
  have hmap : (handler.parameterNames.map composedText).length = arguments.length := by
    rw [List.length_map, hlength]
  rw [bindArguments_of_length h.nodup_formals_loaderRoutine, formals_loaderRoutine,
    List.zip_append hmap]
  · rfl
  · rw [formals_loaderRoutine, List.length_append, List.length_append, hmap]
    rfl

/-- The statements of the loader's function come to a call of the session. -/
theorem loaderBody_run (library : Library) (file : String) (h : HasReadableNames handler)
    (hlength : handler.parameterNames.length = arguments.length) (depth : ℕ) (session : Session) :
    ∃ names, (Statement.execAll library (loaderFrame handler)
      (callValue library (loaderProgram handler) depth) (loaderRoutine handler).body).run.run
        (session.machine handler file (loaderLocals handler file arguments)) =
      ((session.call library handler file arguments).1.map some,
        (session.call library handler file arguments).2.machine handler file names) := by
  obtain ⟨names, hrestoring, htarget⟩ := restoring_run library file h depth session arguments
    [.returns (.call (.name "__funcpack_target") []
      (handler.parameterNames.map fun n => (n, n)))]
  refine ⟨names, (Statement.execAll_cons_run (Statement.global_run _ _)).trans
    (hrestoring.trans ?_)⟩
  rw [Session.call, if_pos hlength.symm]
  rcases hrestore : session.restore library handler file with ⟨_ | _, session'⟩
  · rfl
  · obtain ⟨htarget, hparameters⟩ := htarget (by rw [hrestore])
    exact (Statement.execAll_singleton_run _ _).trans
      (finalCall_run hlength htarget hparameters depth)

/-- A call of the loader's function is one of the session. -/
theorem loaderRoutine_run (h : HasReadableNames handler)
    (hlength : handler.parameterNames.length = arguments.length) (depth : ℕ) (session : Session)
    (outer : NameTable) :
    ((loaderRoutine handler).run library (callValue library (loaderProgram handler) depth) .loader
      (arguments ++ [artifactDirectory file]) []).run.run (session.machine handler file outer) =
      ((session.call library handler file arguments).1,
        (session.call library handler file arguments).2.machine handler file outer) := by
  obtain ⟨names, hbody⟩ := loaderBody_run library file h hlength depth session
  have hrun := Routine.run_run (m := session.machine handler file outer)
    (bindArguments_loaderRoutine h hlength) hbody
  refine hrun.trans ?_
  cases (session.call library handler file arguments).1 <;> rfl

/-! ### The entry point -/

theorem memberOf_loaderModule_run (h : HasReadableNames handler) (session : Session) :
    (memberOf (loaderModule handler file) handler.loaderFunction).run.run
      (session.machine handler file names) =
        (.ok (.function .loader (loaderRoutine handler)), session.machine handler file names) := by
  have hfunction : (session.loaderNames handler file).find? handler.loaderFunction =
      some (.function .loader (loaderRoutine handler)) := by
    have hhead : (loaderNames handler).find? handler.loaderFunction =
        some (.function .loader (loaderRoutine handler)) := List.lookup_cons_self
    obtain ⟨_ | _, calls⟩ := session
    · exact hhead
    · have hne : composedText handler.loaderFunction ≠ "__funcpack_cached" :=
        ne_of_suffix h.ending (by decide)
      rw [NameTable.find?] at hhead ⊢
      rw [Session.loaderNames, if_pos rfl, List.lookup_cons, beq_eq_false_iff_ne.mpr hne]
      exact hhead
  exact memberOf_module_run hfunction

theorem notMem_localNames_entry (h : HasReadableNames handler) (hn : isReservedName n = true)
    (hcomposed : composedText n = n) : composedText n ∉ (entryFrame handler).localNames := by
  rw [hcomposed, entryFrame, localNames_entryRoutine]
  exact h.notMem_of_isReservedName hn

/-- The entry point gives the loader every argument in its place, and the directory last. -/
theorem entryArguments_run (h : HasReadableNames handler)
    (hlength : handler.parameterNames.length = arguments.length) (session : Session) :
    let m := session.machine handler file ((handler.parameterNames.map composedText).zip arguments)
    (Expression.evalAll library (entryFrame handler) caller
      (handler.parameterNames.map .name ++ [.name directoryParameter])).run.run m =
        (.ok (arguments ++ [artifactDirectory file]), m) := by
  intro m
  have hnames : (handler.parameterNames ++ [directoryParameter]).map Expression.name =
      handler.parameterNames.map .name ++ [.name directoryParameter] := by
    rw [List.map_append, List.map_singleton]
  have hdirectory : (entryNames handler file).find? directoryParameter =
      some (artifactDirectory file) := by
    rw [NameTable.find?, composedText_of_ascii (by decide)]
    rfl
  rw [← hnames]
  refine Expression.evalAll_names_run ?_ fun p hp => ?_
  · rw [List.length_append, List.length_append, hlength]
    rfl
  · rw [List.zip_append hlength, List.mem_append] at hp
    obtain hp | hp := hp
    · refine Frame.read_run_of_local ?_ (find?_zip h.distinct hp)
      rw [entryFrame, localNames_entryRoutine]
      exact List.mem_map_of_mem (List.of_mem_zip hp).1
    · obtain rfl := List.mem_singleton.mp hp
      exact Frame.read_run_of_global (notMem_localNames_entry (n := directoryParameter) h
        (by decide) (composedText_of_ascii (by decide))) hdirectory

/-- A call of the entry point's function is one of the session. -/
theorem entryRoutine_run (h : HasReadableNames handler)
    (hlength : handler.parameterNames.length = arguments.length) (depth : ℕ) (session : Session) :
    ((entryRoutine handler).run library (callValue library (loaderProgram handler) (depth + 1))
      .entry arguments []).run.run (session.machine handler file []) =
      ((session.call library handler file arguments).1,
        (session.call library handler file arguments).2.machine handler file []) := by
  let caller := callValue library (loaderProgram handler) (depth + 1)
  let names := (handler.parameterNames.map composedText).zip arguments
  let m := session.machine handler file names
  have hbind : bindArguments (entryRoutine handler).formals arguments [] = some names := by
    rw [formals_entryRoutine]
    refine bindArguments_of_length h.distinct ?_
    rw [List.length_map, hlength]
  have hmodule : ((Expression.name "__funcpack_loader").eval library (entryFrame handler)
      caller).run.run m = (.ok (loaderModule handler file), m) :=
    Expression.name_run (Frame.read_run_of_global
      (notMem_localNames_entry h (by decide) (composedText_of_ascii (by decide))) rfl)
  have hfunction := (Expression.member_run hmodule).trans (memberOf_loaderModule_run h session)
  have hkeywords : ((entryFrame handler).readKeywords []).run.run m = (.ok [], m) := rfl
  have hcall := (Expression.call_run hfunction (entryArguments_run h hlength session)
    hkeywords).trans (loaderRoutine_run h hlength depth session names)
  have hbody : (Statement.execAll library (entryFrame handler) caller
      (entryRoutine handler).body).run.run m =
        ((session.call library handler file arguments).1.map some,
          (session.call library handler file arguments).2.machine handler file names) :=
    (Statement.execAll_singleton_run _ _).trans (Statement.returns_run hcall)
  have hrun := Routine.run_run (m := session.machine handler file []) hbind hbody
  refine hrun.trans ?_
  cases (session.call library handler file arguments).1 <;> rfl

/-- **A call of the entry point is one of the session.** -/
theorem callEntry_run (h : HasReadableNames handler) (depth : ℕ) (session : Session)
    (arguments : List Value) :
    (callEntry library (loaderProgram handler) (depth + 2) "main" arguments).run.run
      (session.machine handler file []) =
      ((session.call library handler file arguments).1,
        (session.call library handler file arguments).2.machine handler file []) := by
  have hmain : (Frame.read ⟨.entry, []⟩ "main").run.run (session.machine handler file []) =
      (.ok (.function .entry (entryRoutine handler)), session.machine handler file []) :=
    Frame.read_run_of_global List.not_mem_nil rfl
  refine (run_bind_of_ok hmain).trans ?_
  by_cases hlength : handler.parameterNames.length = arguments.length
  · exact entryRoutine_run h hlength depth session
  · have hnone : bindArguments (entryRoutine handler).formals arguments [] = none := by
      rw [formals_entryRoutine]
      refine bindArguments_of_length_ne h.distinct ?_
      rw [List.length_map]
      exact Ne.symm hlength
    rw [Session.call, if_neg (Ne.symm hlength)]
    exact Routine.run_run_of_none hnone

end HandlerBundle.Generated
