import HandlerBundle.Loader.Program
import HandlerBundle.Proofs.Binding.Resolution
import HandlerBundle.Proofs.Package.Minting
import Mathlib.Data.List.Nodup

/-!
# The generated programs

The generated sources are the generated programs as they are written. What these programs refer to
can be read off from them: the entry point gives its parameters to the loader in their order, the
loader gives each of its parameters on under its own name, and apart from the parameters they use
reserved names alone.

## Main definitions

* `HasReadableNames` — handlers whose names stand in a source as they are read.

## Main results

* `loaderSource_eq`, `entrySource_eq` — the sources are the programs.
* `loaderProgram_compiles`, `entryProgram_compiles` — a compiler takes them.
-/

namespace HandlerBundle.Generated

variable {handler : Descriptor}

/-! ### How the programs are written -/

theorem writtenAll_names (ns : List String) :
    Expression.writtenAll (ns.map Expression.name) = ns := by
  induction ns with
  | nil => rfl
  | cons n ns ih => rw [List.map_cons, Expression.writtenAll, ih, Expression.written]

theorem writtenAll_append (es es' : List Expression) :
    Expression.writtenAll (es ++ es') = Expression.writtenAll es ++ Expression.writtenAll es' := by
  induction es with
  | nil => rfl
  | cons e es ih =>
    rw [List.cons_append, Expression.writtenAll, ih, Expression.writtenAll, List.cons_append]

theorem append_append_of_eq {s t u v : String} (h : t ++ u = v) : s ++ t ++ u = s ++ v := by
  rw [String.append_assoc, h]

theorem fst_written_parameters (handler : Descriptor) :
    handler.written.parameters.map Prod.fst = handler.parameterNames := by
  rw [Descriptor.parameterNames, Descriptor.written, List.map_map]
  rfl

/-- **The source of the loader is the loader.** -/
theorem loaderSource_eq (handler : Descriptor) :
    loaderSource handler = (loaderProgram handler).source := by
  have hkeywords : (handler.parameterNames.map fun n => (n, n)).map (fun k => k.1 ++ "=" ++ k.2) =
      handler.written.parameters.map fun p => p.1 ++ "=" ++ p.1 := by
    rw [← fst_written_parameters, List.map_map, List.map_map]
    rfl
  have hremark : ∀ s : String, s ++ ". Do not edit." ++ "\"\"\"" = s ++ ". Do not edit.\"\"\"" :=
    fun _ => append_append_of_eq rfl
  unfold loaderSource Program.source
  refine congrArg sourceLines ?_
  simp only [loaderProgram, loaderRoutine, restoreStatement, List.flatMap_cons,
    List.flatMap_nil, Item.lines, Routine.lines, Statement.lines, Statement.linesAll,
    Expression.written, Expression.writtenAll,
    List.cons_append, List.nil_append, List.append_nil, List.map_nil, hkeywords,
    String.intercalate_nil, String.intercalate_singleton, String.intercalate_cons_cons, indentation,
    directoryParameter, ← String.append_assoc, String.reduceAppend, hremark]

/-- **The source of the entry point is the entry point.** -/
theorem entrySource_eq (handler : Descriptor) :
    entrySource handler = (entryProgram handler).source := by
  have hremark : ∀ s : String, s ++ ". Do not edit." ++ "\"\"\"" = s ++ ". Do not edit.\"\"\"" :=
    fun _ => append_append_of_eq rfl
  have hjoin : ∀ s : String, s ++ ", " ++ "__funcpack_os.path.join(__dir, " =
      s ++ ", __funcpack_os.path.join(__dir, " := fun _ => append_append_of_eq rfl
  have hzero : toString 0 = "0" := rfl
  unfold entrySource Program.source
  refine congrArg sourceLines ?_
  simp only [entryProgram, entryRoutine, searchStatement, List.flatMap_cons,
    List.flatMap_nil, Item.lines, Routine.lines, Statement.lines, Statement.linesAll,
    Expression.written, Expression.writtenAll,
    List.cons_append, List.nil_append, List.append_nil, List.map_nil, fst_written_parameters,
    writtenAll_append, writtenAll_names, String.intercalate_singleton,
    String.intercalate_cons_cons, indentation, directoryParameter, ← String.append_assoc,
    String.reduceAppend, hremark, hjoin, hzero]

/-! ### The names in the programs -/

/-- A text without characters beyond the common ones is in composed form. -/
theorem composedText_of_ascii {s : String} (h : (s.toList.all fun c => c.toNat < 128) = true) :
    composedText s = s :=
  if_pos h

/-- The names of its own that the function of a generated program refers to are those that it refers
to for a handler without parameters. -/
def ownNames (routine : Descriptor → Routine) (handler : Descriptor) : List String :=
  Statement.namesAll (routine { handler with parameters := [] }).body

theorem namesAll_names (ns : List String) :
    Expression.namesAll (ns.map Expression.name) = ns := by
  induction ns with
  | nil => rfl
  | cons n ns ih =>
    rw [List.map_cons, Expression.namesAll, ih, Expression.names, List.singleton_append]

theorem namesAll_append (es es' : List Expression) :
    Expression.namesAll (es ++ es') = Expression.namesAll es ++ Expression.namesAll es' := by
  induction es with
  | nil => rfl
  | cons e es ih => rw [List.cons_append, Expression.namesAll, ih, Expression.namesAll,
      List.append_assoc]

theorem labelsAll_names (ns : List String) :
    Expression.labelsAll (ns.map Expression.name) = [] := by
  induction ns with
  | nil => rfl
  | cons n ns ih => rw [List.map_cons, Expression.labelsAll, ih, Expression.labels, List.nil_append]

theorem labelsAll_append (es es' : List Expression) :
    Expression.labelsAll (es ++ es') = Expression.labelsAll es ++ Expression.labelsAll es' := by
  induction es with
  | nil => rfl
  | cons e es ih => rw [List.cons_append, Expression.labelsAll, ih, Expression.labelsAll,
      List.append_assoc]

theorem keywordsDifferAll_names (ns : List String) :
    Expression.keywordsDifferAll (ns.map Expression.name ++ [.name directoryParameter]) = true := by
  induction ns with
  | nil => rfl
  | cons n ns ih =>
    rw [List.map_cons, List.cons_append, Expression.keywordsDifferAll, ih,
      Expression.keywordsDiffer, Bool.and_self]

theorem ownNames_loaderRoutine (handler : Descriptor) :
    ownNames loaderRoutine handler =
      ["__funcpack_cached", "__funcpack_target", "__funcpack_cached", "__funcpack_target",
        "__funcpack_cached", "__funcpack_target", "__funcpack_lock", "__funcpack_cached",
        "__funcpack_runtime", directoryParameter, "__funcpack_function_type", "__funcpack_cached",
        "__funcpack_target"] :=
  rfl

theorem ownNames_entryRoutine (handler : Descriptor) :
    ownNames entryRoutine handler = ["__funcpack_loader", directoryParameter] :=
  rfl

/-- The loader refers to its own names and the parameters. -/
theorem namesAll_loaderRoutine (handler : Descriptor) :
    Statement.namesAll (loaderRoutine handler).body =
      ownNames loaderRoutine handler ++ handler.parameterNames := by
  simp [ownNames_loaderRoutine, loaderRoutine, restoreStatement, Statement.namesAll,
    Function.comp_def]

/-- The entry point refers to its own names and the parameters. -/
theorem namesAll_entryRoutine (handler : Descriptor) :
    Statement.namesAll (entryRoutine handler).body =
      "__funcpack_loader" :: (handler.parameterNames ++ [directoryParameter]) := by
  simp [entryRoutine, Statement.namesAll, namesAll_append, namesAll_names]

theorem formals_eq_map (f : Routine) :
    f.formals = (f.parameters.map Prod.fst).map composedText := by
  rw [Routine.formals, List.map_map]
  rfl

theorem fst_loaderRoutine_parameters (handler : Descriptor) :
    (loaderRoutine handler).parameters.map Prod.fst =
      handler.parameterNames ++ [directoryParameter] := by
  rw [loaderRoutine, List.map_append, fst_written_parameters]
  rfl

theorem formals_loaderRoutine (handler : Descriptor) :
    (loaderRoutine handler).formals =
      handler.parameterNames.map composedText ++ [directoryParameter] := by
  have hdirectory : composedText directoryParameter = directoryParameter :=
    composedText_of_ascii (by decide)
  rw [formals_eq_map, fst_loaderRoutine_parameters, List.map_append, List.map_singleton, hdirectory]

theorem formals_entryRoutine (handler : Descriptor) :
    (entryRoutine handler).formals = handler.parameterNames.map composedText := by
  rw [formals_eq_map, entryRoutine, fst_written_parameters]

theorem localNames_loaderRoutine (handler : Descriptor) :
    (loaderRoutine handler).localNames =
      (loaderRoutine handler).formals ++ ["__funcpack_target", "__funcpack_target"] := by
  have hassigned : (Statement.assignedAll (loaderRoutine handler).body).map composedText =
      ["__funcpack_target", "__funcpack_cached", "__funcpack_target"] := by
    change ["__funcpack_target", "__funcpack_cached", "__funcpack_target"].map composedText = _
    simp (disch := decide) only [List.map_cons, List.map_nil, composedText_of_ascii]
  have hglobals : (Statement.globalsAll (loaderRoutine handler).body).map composedText =
      ["__funcpack_cached"] := by
    change ["__funcpack_cached"].map composedText = _
    rw [List.map_singleton, composedText_of_ascii (by decide)]
  rw [Routine.localNames, hassigned, hglobals]
  rfl

theorem localNames_entryRoutine (handler : Descriptor) :
    (entryRoutine handler).localNames = handler.parameterNames.map composedText := by
  rw [Routine.localNames, formals_entryRoutine]
  exact List.append_nil _

/-! ### What a compiler takes -/

/-- The names of a handler can stand in the generated sources, and a compiler tells them apart; it
reads every name in composed form. The scope changes nothing of the remark it stands in. The name of
the handler is an identifier, and that of the loader's function keeps its ending. The parameters
have names that a variable can have, different from each other and from the reserved names. -/
structure HasReadableNames (handler : Descriptor) : Prop where
  scope : (Item.remark handler.scope).compiles = true
  name : isIdentifier handler.name = true
  ending : "_execute".toList <:+ (composedText handler.loaderFunction).toList
  assignable : ∀ n ∈ handler.parameterNames, isAssignable n = true
  distinct : (handler.parameterNames.map composedText).Nodup
  unreserved : ∀ n ∈ handler.parameterNames, isReservedName (composedText n) = false

theorem isIdentifier_append {s t : String} (hs : isIdentifier s = true)
    (ht : t.toList.all isIdentifierContinue = true) : isIdentifier (s ++ t) = true := by
  unfold isIdentifier at hs ⊢
  rw [String.toList_append]
  cases hchars : s.toList with
  | nil =>
    rw [hchars] at hs
    exact absurd hs Bool.false_ne_true
  | cons c rest =>
    rw [hchars, Bool.and_eq_true] at hs
    change (isIdentifierStart c && (rest ++ t.toList).all isIdentifierContinue) = true
    rw [List.all_append, ht, hs.1, hs.2]
    rfl

namespace HasReadableNames

/-- The function of the loader has a name that a function can have. -/
theorem isAssignable_loaderFunction (h : HasReadableNames handler) :
    isAssignable handler.loaderFunction = true := by
  have hending : "_execute".toList <:+ handler.loaderFunction.toList := by
    rw [Descriptor.loaderFunction, String.toList_append]
    exact List.suffix_append _ _
  have hidentifier : isIdentifier handler.loaderFunction = true :=
    isIdentifier_append h.name (by decide)
  have hword : reservedWords.contains handler.loaderFunction = false := by
    rw [Bool.eq_false_iff, ne_eq, List.contains_iff_mem]
    intro hmem
    have hwords : ∀ w ∈ reservedWords, ¬"_execute".toList <:+ w.toList := by decide
    exact hwords _ hmem hending
  have hdebug : composedText handler.loaderFunction ≠ "__debug__" :=
    ne_of_suffix h.ending (by decide)
  rw [isAssignable, isVariableName, hidentifier, hword, bne_iff_ne.mpr hdebug]
  rfl

theorem notMem_of_isReservedName (h : HasReadableNames handler) {n : String}
    (hn : isReservedName n = true) : n ∉ handler.parameterNames.map composedText := by
  intro hmem
  obtain ⟨p, hp, rfl⟩ := List.mem_map.mp hmem
  rw [h.unreserved p hp] at hn
  exact Bool.false_ne_true hn

theorem all_isAssignable (h : HasReadableNames handler) :
    handler.parameterNames.all isAssignable = true :=
  List.all_eq_true.mpr h.assignable

theorem nodup_formals_loaderRoutine (h : HasReadableNames handler) :
    (loaderRoutine handler).formals.Nodup := by
  rw [formals_loaderRoutine, List.nodup_append_comm, List.singleton_append, List.nodup_cons]
  exact ⟨h.notMem_of_isReservedName (by decide), h.distinct⟩

end HasReadableNames

/-- A compiler takes the function of the loader. -/
theorem loaderRoutine_compiles (h : HasReadableNames handler) :
    (loaderRoutine handler).compiles = true := by
  have hheader : ((loaderRoutine handler).name ::
      (loaderRoutine handler).parameters.map Prod.fst).all isAssignable = true := by
    rw [fst_loaderRoutine_parameters, List.all_cons, List.all_append, h.all_isAssignable]
    exact (Bool.and_true _).trans h.isAssignable_loaderFunction
  have hlabels : Expression.labelsAll (Statement.expressionsAll (loaderRoutine handler).body) =
      "rehydrate" :: handler.parameterNames := by
    simp [loaderRoutine, restoreStatement, Function.comp_def]
  have hkeywords : Expression.keywordsDifferAll
      (Statement.expressionsAll (loaderRoutine handler).body) = true := by
    simp [loaderRoutine, restoreStatement, Function.comp_def, h.distinct]
  have hbody : Statement.compileAll (loaderRoutine handler).body = true := by
    rw [Statement.compileAll, namesAll_loaderRoutine, ownNames_loaderRoutine, hlabels, hkeywords,
      List.all_append, List.all_cons (a := "rehydrate"), h.all_isAssignable]
    decide
  have hglobals : (Statement.globalsAll (loaderRoutine handler).body).map composedText =
      ["__funcpack_cached"] := by
    change ["__funcpack_cached"].map composedText = _
    rw [List.map_singleton, composedText_of_ascii (by decide)]
  have hapart : (loaderRoutine handler).formals.all fun n =>
      !((Statement.globalsAll (loaderRoutine handler).body).map composedText).contains n := by
    rw [hglobals, formals_loaderRoutine, List.all_eq_true]
    intro n hn
    rw [Bool.not_eq_true', Bool.eq_false_iff, ne_eq, List.contains_iff_mem, List.mem_singleton]
    rintro rfl
    rw [List.mem_append] at hn
    obtain hn | hn := hn
    · exact h.notMem_of_isReservedName (by decide) hn
    · revert hn
      decide
  rw [Routine.compiles, hheader, hbody, hapart, decide_eq_true h.nodup_formals_loaderRoutine]
  rfl

/-- A compiler takes the function of the entry point. -/
theorem entryRoutine_compiles (h : HasReadableNames handler) :
    (entryRoutine handler).compiles = true := by
  have hheader : ((entryRoutine handler).name ::
      (entryRoutine handler).parameters.map Prod.fst).all isAssignable = true := by
    have hmain : isAssignable "main" = true := by decide
    rw [entryRoutine, fst_written_parameters, List.all_cons, h.all_isAssignable, hmain]
    rfl
  have hlabels : Expression.labelsAll (Statement.expressionsAll (entryRoutine handler).body) =
      [handler.loaderFunction] := by
    simp [entryRoutine, labelsAll_append, labelsAll_names]
  have hkeywords : Expression.keywordsDifferAll
      (Statement.expressionsAll (entryRoutine handler).body) = true := by
    simp [entryRoutine, keywordsDifferAll_names]
  have hbody : Statement.compileAll (entryRoutine handler).body = true := by
    rw [Statement.compileAll, namesAll_entryRoutine, hlabels, hkeywords, List.all_cons,
      List.all_append, h.all_isAssignable, List.all_cons (a := handler.loaderFunction),
      h.isAssignable_loaderFunction]
    decide
  have hglobals : Statement.globalsAll (entryRoutine handler).body = [] := rfl
  have hapart : (handler.parameterNames.map composedText).all (fun n =>
      !(([] : List String).map composedText).contains n) = true :=
    List.all_eq_true.mpr fun _ _ => rfl
  rw [Routine.compiles, hheader, hbody, hglobals, formals_entryRoutine, decide_eq_true h.distinct,
    hapart]
  rfl

/-- The remark at the head of a program is one. -/
theorem remark_compiles (h : HasReadableNames handler) (head : String)
    (hhead : (Item.remark head).compiles = true) :
    (Item.remark (head ++ handler.qualifiedName ++ ". Do not edit.")).compiles = true := by
  have hscope := h.scope
  have hname : handler.name.toList.all (fun c => c != '"' && c != '\\' && c != '\x00') = true := by
    rw [List.all_eq_true]
    intro c hc
    have hne : ∀ d, isIdentifierStart d = false → isIdentifierContinue d = false → c ≠ d := by
      rintro d hstart hcontinue rfl
      exact notMem_of_isIdentifier hstart hcontinue h.name hc
    rw [bne_iff_ne.mpr (hne '"' (by decide) (by decide)),
      bne_iff_ne.mpr (hne '\\' (by decide) (by decide)),
      bne_iff_ne.mpr (hne '\x00' (by decide) (by decide))]
    rfl
  rw [Item.compiles] at hhead hscope ⊢
  rw [Descriptor.qualifiedName]
  simp only [String.toList_append, List.all_append, hhead, hscope, hname]
  decide

/-- **A compiler takes the loader.** -/
theorem loaderProgram_compiles (h : HasReadableNames handler) :
    (loaderProgram handler).compiles = true := by
  rw [Program.compiles, loaderProgram, List.all_cons,
    remark_compiles h "Generated loader for " (by decide)]
  simp [loaderRoutine_compiles h, Item.compiles, Statement.compileAll, Statement.namesAll]
  decide

/-- **A compiler takes the entry point.** -/
theorem entryProgram_compiles (h : HasReadableNames handler) :
    (entryProgram handler).compiles = true := by
  rw [Program.compiles, entryProgram, List.all_cons,
    remark_compiles h "Generated entry point for " (by decide)]
  simp [entryRoutine_compiles h, searchStatement, Item.compiles, Statement.compileAll,
    Statement.namesAll]
  decide

end HandlerBundle.Generated
