import HandlerBundle.Proofs.Loader.Program
import HandlerBundle.Proofs.Text.Quoted

/-!
# Signatures in the generated sources

The generated sources state the signature of a handler in text literals: the type of the function,
and in the definition a type behind each parameter and behind the arrow. Whatever these types are
made of, the literals end where they should, and their values are the types. So the signature is
read back from a source of a handler whose scope and name are known, and handlers of one scope and
name that have the same loader have the same signature.

## Main definitions

* `readDefinition?` — reads the line of a definition.
* `Generated.readLoader?`, `Generated.readEntryPoint?` — read the signature from the sources.

## Main results

* `Generated.sources_tell_signature`
-/

namespace HandlerBundle

/-! ### Readers -/

/-- Takes a text off the front. -/
def skipText? (s : String) (cs : List Char) : Option (List Char) :=
  cs.dropPrefix? s.toList

/-- Reads a parameter with its type: an identifier up to the colon, and a literal. -/
def readParameter? (cs : List Char) : Option ((String × String) × List Char) := do
  let name := String.ofList (cs.takeWhile (· != ':'))
  if isIdentifier name then
    let rest ← skipText? ": " (cs.dropWhile (· != ':'))
    let (type, rest) ← readLiteral? rest
    return ((name, type), rest)
  else none

/-- Reads further parameters, each behind a comma. The fuel bounds their number. -/
def readMoreParameters? : Nat → List Char → Option (List (String × String) × List Char)
  | 0, _ => none
  | fuel + 1, cs =>
    match skipText? ", " cs with
    | none => some ([], cs)
    | some rest => do
      let (p, rest) ← readParameter? rest
      let (ps, rest) ← readMoreParameters? fuel rest
      return (p :: ps, rest)

/-- Reads a list of parameters up to the closing parenthesis. -/
def readParameters? (cs : List Char) : Option (List (String × String) × List Char) :=
  if cs.head? == some ')' then some ([], cs)
  else do
    let (p, rest) ← readParameter? cs
    let (ps, rest) ← readMoreParameters? cs.length rest
    return (p :: ps, rest)

/-- Reads the line that defines the function of the given name, and returns its signature and the
following lines. -/
def readDefinition? (name : String) (cs : List Char) : Option (WrittenSignature × List Char) := do
  let rest ← skipText? ("def " ++ name ++ "(") cs
  let (parameters, rest) ← readParameters? rest
  let rest ← skipText? ") -> " rest
  let (result, rest) ← readLiteral? rest
  let rest ← skipText? ":\n" rest
  return (⟨parameters, result⟩, rest)

/-! ### Reading parameters back -/

theorem skipText?_append (s : String) (rest : List Char) :
    skipText? s (s.toList ++ rest) = some rest :=
  List.dropPrefix?_append_of_beq rest (beq_self_eq_true _)

/-- A parameter as it is written. -/
def writtenParameter (p : String × String) : List Char :=
  (p.1 ++ ": " ++ quoted p.2).toList

theorem toList_parameterList_cons (p : String × String) (ps : List (String × String)) :
    (WrittenSignature.parameterList (p :: ps)).toList =
      writtenParameter p ++ ps.flatMap fun q => ", ".toList ++ writtenParameter q := by
  induction ps generalizing p with
  | nil => simp [WrittenSignature.parameterList, writtenParameter]
  | cons q ps ih =>
    have hq := ih q
    rw [WrittenSignature.parameterList, List.map_cons] at hq ⊢
    rw [List.map_cons, String.intercalate_cons_cons, String.toList_append, String.toList_append, hq,
      List.flatMap_cons, List.append_assoc, List.append_assoc]
    rfl

variable {p : String × String} {ps : List (String × String)} {rest : List Char}

theorem readParameter?_written (hp : isIdentifier p.1 = true) (hrest : rest.head? ≠ some '\'') :
    readParameter? (writtenParameter p ++ rest) = some (p, rest) := by
  have hcolon : ∀ c ∈ p.1.toList, (c != ':') = true := fun c hc => by
    refine bne_iff_ne.mpr fun h => ?_
    exact notMem_of_isIdentifier (by decide) (by decide) hp (h ▸ hc)
  have hwritten : writtenParameter p ++ rest =
      p.1.toList ++ (": ".toList ++ ((quoted p.2).toList ++ rest)) := by
    simp [writtenParameter]
  have htake : (writtenParameter p ++ rest).takeWhile (· != ':') = p.1.toList := by
    rw [hwritten, List.takeWhile_append_of_pos hcolon]
    simp
  have hdrop : (writtenParameter p ++ rest).dropWhile (· != ':') =
      ": ".toList ++ ((quoted p.2).toList ++ rest) := by
    rw [hwritten, List.dropWhile_append_of_pos hcolon]
    simp
  simp only [readParameter?, htake, hdrop, String.ofList_toList, if_pos hp, skipText?_append,
    readLiteral?_quoted p.2 hrest, Option.bind_eq_bind, Option.bind_some]
  rfl

/-- What is written of further parameters does not begin with a mark that could open a literal. -/
theorem head?_flatMap_written_ne :
    ((ps.flatMap fun q => ", ".toList ++ writtenParameter q) ++ ')' :: rest).head? ≠
      some '\'' := by
  cases ps with
  | nil => exact fun h => absurd (Option.some.inj h) (by decide)
  | cons p ps => exact fun h => absurd (Option.some.inj h) (by decide)

theorem readMoreParameters?_written {fuel : Nat} (hps : ∀ p ∈ ps, isIdentifier p.1 = true)
    (hfuel : ps.length < fuel) :
    readMoreParameters? fuel
      ((ps.flatMap fun q => ", ".toList ++ writtenParameter q) ++ ')' :: rest) =
      some (ps, ')' :: rest) := by
  induction ps generalizing fuel with
  | nil =>
    obtain ⟨fuel, rfl⟩ := Nat.exists_eq_succ_of_ne_zero (Nat.ne_zero_of_lt hfuel)
    rfl
  | cons p ps ih =>
    obtain ⟨fuel, rfl⟩ := Nat.exists_eq_succ_of_ne_zero (Nat.ne_zero_of_lt hfuel)
    obtain ⟨hp, hps⟩ := List.forall_mem_cons.mp hps
    rw [List.flatMap_cons, List.append_assoc, List.append_assoc]
    simp only [readMoreParameters?, skipText?_append,
      readParameter?_written hp head?_flatMap_written_ne,
      ih hps (Nat.lt_of_succ_lt_succ hfuel), Option.bind_eq_bind, Option.bind_some]
    rfl

theorem length_le_length_flatMap_written (ps : List (String × String)) :
    ps.length ≤ (ps.flatMap fun q => ", ".toList ++ writtenParameter q).length := by
  induction ps with
  | nil => exact Nat.le_refl _
  | cons p ps ih =>
    have hcomma : ", ".toList.length = 2 := rfl
    rw [List.flatMap_cons, List.length_append, List.length_append, List.length_cons, hcomma]
    omega

/-- A parameter does not begin with the closing parenthesis. -/
theorem head?_written_ne (hp : isIdentifier p.1 = true) :
    (writtenParameter p ++ rest).head? ≠ some ')' := by
  have hparenthesis : ')' ∉ p.1.toList := notMem_of_isIdentifier (by decide) (by decide) hp
  rw [writtenParameter, String.toList_append, String.toList_append]
  cases hname : p.1.toList with
  | nil => rw [isIdentifier, hname] at hp; cases hp
  | cons c cs => exact fun h => hparenthesis (hname ▸ Option.some.inj h ▸ List.mem_cons_self)

/-- **A list of parameters is read back from the way it is written.** -/
theorem readParameters?_written (hps : ∀ p ∈ ps, isIdentifier p.1 = true) :
    readParameters? ((WrittenSignature.parameterList ps).toList ++ ')' :: rest) =
      some (ps, ')' :: rest) := by
  cases ps with
  | nil => rfl
  | cons p ps =>
    obtain ⟨hp, hps⟩ := List.forall_mem_cons.mp hps
    have hlength := length_le_length_flatMap_written ps
    rw [toList_parameterList_cons, List.append_assoc, readParameters?,
      if_neg (mt eq_of_beq (head?_written_ne hp))]
    simp only [readParameter?_written hp head?_flatMap_written_ne, Option.bind_eq_bind,
      Option.bind_some]
    rw [readMoreParameters?_written hps]
    · rfl
    · rw [List.length_append, List.length_append, List.length_cons]
      omega

namespace Generated

/-! ### Reading sources back -/

/-- **The line of a definition is read back.** -/
theorem readDefinition?_lines (f : Routine)
    (hnames : ∀ p ∈ f.parameters, isIdentifier p.1 = true) :
    ∃ rest, readDefinition? f.name (sourceLines f.lines).toList =
      some (⟨f.parameters, f.result⟩, rest) := by
  let body := (sourceLines (Statement.linesAll indentation f.body)).toList
  have hlines : (sourceLines f.lines).toList =
      ("def " ++ f.name ++ "(").toList ++ ((WrittenSignature.parameterList f.parameters).toList ++
        ')' :: (" -> ".toList ++ ((quoted f.result).toList ++ (":\n".toList ++ body)))) := by
    simp [sourceLines, Routine.lines, body]
  have harrow : skipText? ") -> "
      (')' :: (" -> ".toList ++ ((quoted f.result).toList ++ (":\n".toList ++ body)))) =
        some ((quoted f.result).toList ++ (":\n".toList ++ body)) :=
    skipText?_append ") -> " _
  have hcolon : (":\n".toList ++ body).head? ≠ some '\'' :=
    fun h => absurd (Option.some.inj h) (by decide)
  refine ⟨body, ?_⟩
  rw [hlines, readDefinition?]
  simp only [skipText?_append, readParameters?_written hnames, harrow,
    readLiteral?_quoted f.result hcolon, Option.bind_eq_bind, Option.bind_some]
  rfl

/-- A handler without parameters. What its programs have besides its signature is the same in the
programs of all handlers of that scope and name. -/
def bareHandler (scope name : String) : Descriptor :=
  ⟨scope, name, [], .absent, []⟩

/-- The loader up to the type of the function. -/
def loaderHeading (scope name : String) : Program :=
  (loaderProgram (bareHandler scope name)).take 6

/-- The loader between the type of the function and the definition. -/
def loaderState : Program :=
  ((loaderProgram (bareHandler "" "")).drop 7).dropLast

/-- The entry point up to the definition. -/
def entryHeading (scope name : String) : Program :=
  (entryProgram (bareHandler scope name)).dropLast

/-- Reads the type of the function, and the signature that is defined, from the loader of a handler
of the given scope and name. -/
def readLoader? (scope name source : String) : Option (String × WrittenSignature) := do
  let rest ← skipText? (loaderHeading scope name).source source.toList
  let rest ← skipText? "__funcpack_function_type = " rest
  let (type, rest) ← readLiteral? rest
  let rest ← skipText? ("\n" ++ loaderState.source) rest
  let (sig, _) ← readDefinition? (name ++ "_execute") rest
  return (type, sig)

/-- Reads the signature that is defined from the entry point of a handler of the given scope and
name. -/
def readEntryPoint? (scope name source : String) : Option WrittenSignature := do
  let rest ← skipText? (entryHeading scope name).source source.toList
  let (sig, _) ← readDefinition? "main" rest
  return sig

theorem source_append (program program' : Program) :
    Program.source (program ++ program') = program.source ++ program'.source := by
  rw [Program.source, Program.source, Program.source, List.flatMap_append, sourceLines, sourceLines,
    sourceLines, List.map_append, String.join_append]

theorem isIdentifier_of_mem_written {handler : Descriptor}
    (hnames : ∀ p ∈ handler.parameters, isIdentifier p.name = true) :
    ∀ p ∈ handler.written.parameters, isIdentifier p.1 = true :=
  List.forall_mem_map.mpr hnames

theorem source_define (f : Routine) : Program.source [.define f] = sourceLines f.lines := by
  rw [Program.source, List.flatMap_singleton, Item.lines]

theorem toList_loaderSource (handler : Descriptor) :
    (loaderSource handler).toList =
      (loaderHeading handler.scope handler.name).source.toList ++
        ("__funcpack_function_type = ".toList ++ ((quoted handler.written.functionType).toList ++
          (("\n" ++ loaderState.source).toList ++
            (sourceLines (loaderRoutine handler).lines).toList))) := by
  have hprogram : loaderProgram handler = loaderHeading handler.scope handler.name ++
      ([.statement (.assign "__funcpack_function_type" (.text handler.written.functionType))] ++
        (loaderState ++ [.define (loaderRoutine handler)])) := rfl
  have htype (s : String) :
      Program.source [.statement (.assign "__funcpack_function_type" (.text s))] =
        "__funcpack_function_type = " ++ quoted s ++ "\n" := by
    simp [Program.source, sourceLines, Item.lines, Statement.lines, Expression.written]
  rw [loaderSource_eq, hprogram, source_append, source_append, source_append, source_define, htype]
  simp only [String.toList_append, List.append_assoc]

/-- **The loader tells the signature**, in the literal for the type of the function and in the
definition. -/
theorem readLoader?_loaderSource {handler : Descriptor}
    (hnames : ∀ p ∈ handler.parameters, isIdentifier p.name = true) :
    readLoader? handler.scope handler.name (loaderSource handler) =
      some (handler.written.functionType,
        ⟨handler.written.parameters ++ [directoryEntry], handler.written.result⟩) := by
  have hall : ∀ p ∈ (loaderRoutine handler).parameters, isIdentifier p.1 = true :=
    List.forall_mem_append.mpr
      ⟨isIdentifier_of_mem_written hnames, List.forall_mem_singleton.mpr (by decide)⟩
  obtain ⟨rest, hdefinition⟩ := readDefinition?_lines (loaderRoutine handler) hall
  have hend : (("\n" ++ loaderState.source).toList ++
      (sourceLines (loaderRoutine handler).lines).toList).head? ≠ some '\'' := by
    rw [String.toList_append]
    exact fun h => absurd (Option.some.inj h) (by decide)
  rw [readLoader?, toList_loaderSource]
  simp only [skipText?_append, readLiteral?_quoted handler.written.functionType hend,
    Option.bind_eq_bind, Option.bind_some]
  change (readDefinition? (loaderRoutine handler).name _).bind _ = _
  rw [hdefinition]
  rfl

/-- **The entry point tells the signature.** -/
theorem readEntryPoint?_entrySource {handler : Descriptor}
    (hnames : ∀ p ∈ handler.parameters, isIdentifier p.name = true) :
    readEntryPoint? handler.scope handler.name (entrySource handler) = some handler.written := by
  have hprogram : entryProgram handler =
      entryHeading handler.scope handler.name ++ [.define (entryRoutine handler)] := rfl
  obtain ⟨rest, hdefinition⟩ :=
    readDefinition?_lines (entryRoutine handler) (isIdentifier_of_mem_written hnames)
  rw [readEntryPoint?, entrySource_eq, hprogram, source_append, source_define, String.toList_append]
  simp only [skipText?_append, Option.bind_eq_bind, Option.bind_some]
  change (readDefinition? (entryRoutine handler).name _).bind _ = _
  rw [hdefinition]
  rfl

/-- **No type escapes its literal.** From either source of a handler, whatever its annotations, the
signature is read back: each parameter is followed by a literal of one line with the full name of
its annotation as the value, as is the arrow by one for the result, and the literal for the type of
the function has that type as its value. Handlers of one scope and name with the same loader have
the same signature. -/
theorem sources_tell_signature (handler : Descriptor)
    (hnames : ∀ p ∈ handler.parameters, isIdentifier p.name = true) :
    readLoader? handler.scope handler.name (loaderSource handler) =
      some (handler.written.functionType,
        ⟨handler.written.parameters ++ [directoryEntry], handler.written.result⟩) ∧
    readEntryPoint? handler.scope handler.name (entrySource handler) = some handler.written ∧
    ∀ other : Descriptor, (∀ p ∈ other.parameters, isIdentifier p.name = true) →
      other.scope = handler.scope → other.name = handler.name →
      loaderSource other = loaderSource handler → other.written = handler.written := by
  refine ⟨readLoader?_loaderSource hnames, readEntryPoint?_entrySource hnames, ?_⟩
  intro other hother hscope hname hsource
  have hread := readLoader?_loaderSource hother
  rw [hsource, hscope, hname, readLoader?_loaderSource hnames] at hread
  obtain ⟨-, hsig⟩ := Prod.mk.inj (Option.some.inj hread)
  obtain ⟨hparameters, hresult⟩ := WrittenSignature.mk.inj hsig
  have hwritten : handler.written.parameters = other.written.parameters :=
    List.append_cancel_right hparameters
  calc other.written
      _ = ⟨other.written.parameters, other.written.result⟩ := rfl
      _ = handler.written := by rw [← hwritten, ← hresult]

/-- A handler whose annotations hold quotes, backslashes, the ends of lines, and what would be a
place in a template. -/
def awkwardHandler : Descriptor where
  scope := "shop"
  name := "price"
  parameters :=
    [⟨"amount", .literal [.text "it's \"$\x7bname\x7d\"\\\n", .text "\x00"]⟩,
      ⟨"note", .forward "'Order', note: '\u2028"⟩]
  result := .annotated (.cls (.known .str)) "') -> '"
  shapeErrors := []

theorem sources_tell_signature_awkwardHandler :
    (∀ p ∈ awkwardHandler.parameters, isIdentifier p.name = true) ∧
      readLoader? "shop" "price" (loaderSource awkwardHandler) =
        some (awkwardHandler.written.functionType,
          ⟨awkwardHandler.written.parameters ++ [directoryEntry],
            awkwardHandler.written.result⟩) ∧
      readEntryPoint? "shop" "price" (entrySource awkwardHandler) =
        some awkwardHandler.written := by
  have hnames : ∀ p ∈ awkwardHandler.parameters, isIdentifier p.name = true := by decide
  have htell := sources_tell_signature awkwardHandler hnames
  exact ⟨hnames, htell.1, htell.2.1⟩

end Generated

end HandlerBundle
