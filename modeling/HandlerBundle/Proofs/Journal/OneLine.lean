import HandlerBundle.Proofs.Journal.Line
import HandlerBundle.Proofs.Text.Quoted

/-!
# Messages and builds on one line

Every line of the journal tells a message that is on one line: the line of an entry, that of what is
told to a journal, and that of an event of a build. The same holds of the identifiers of the builds
that are entered. Each is the one-line form of the identifier that is given or, where nothing is
left of that, a number in hexadecimal digits; so whatever steps lead to a journal, all its builds
have identifiers on one line.

## Main definitions

* `TellsOneLine` — lines with a message on one line.
* `hexIdentifier` — the identifiers that are made for builds without one.
* `Journal.Step` — the steps between the events of a journal.

## Main results

* `Entry.tellsOneLine`, `Journal.tellsOneLine`, `Journal.tellsOneLine_of_event` — messages.
* `isOneLine_buildIdentifier`, `Journal.isOneLine_of_steps` — builds.
* `oneLine_normalizes`
-/

namespace HandlerBundle

/-! ### Messages -/

/-- A line that tells a message on one line. -/
def TellsOneLine (line : String) : Prop :=
  ∃ members message, (Json.object members).compact writtenLayout = line ∧
    Json.member? members "message" = some (.text message) ∧
    IsOneLine Entry.messageLimit message

theorem isOneLine_message (s : String) :
    IsOneLine Entry.messageLimit (oneLine s Entry.messageLimit) :=
  isOneLine_oneLine s (by decide)

namespace Entry

variable {h : Heap} {table : ModuleTable} {origin : Origin} {build : Option String} {e : Entry}
  {timestamp line message : String}

/-- The message of an entry is on one line. -/
theorem isOneLine_of_message (hmessage : e.message h table = .ok message) :
    IsOneLine messageLimit message := by
  rw [Entry.message] at hmessage
  obtain ⟨s, -, rfl⟩ := map_eq_ok_iff.mp hmessage
  exact isOneLine_message s

theorem tellsOneLine_of_writeAt (hline : e.writeAt h table origin build timestamp = .ok line) :
    TellsOneLine line := by
  obtain ⟨message, members, hmessage, htold, hcompact⟩ := writeAt_eq_ok_iff.mp hline
  have hfind : (e.members h table origin build timestamp message).find?
      (fun m => m.1 == "message") = some ("message", .ok (.text message)) :=
    find?_lineMembers_of_not_isDetail (by decide) rfl
  obtain ⟨v, hv, hmember⟩ := exists_member?_of_find? htold hfind
  obtain rfl := Except.ok.inj hv
  exact ⟨members, message, hcompact, hmember, isOneLine_of_message hmessage⟩

/-- **The line of an entry tells a message on one line.** -/
theorem tellsOneLine (hline : e.write h table origin build = .ok line) : TellsOneLine line := by
  obtain ⟨timestamp, message, members, -, hrest⟩ := write_eq_ok_iff.mp hline
  exact tellsOneLine_of_writeAt (writeAt_eq_ok_iff.mpr ⟨message, members, hrest⟩)

end Entry

namespace Journal

variable {j : Journal} {line : String}

/-- What is kept is the line that the journal has for it. -/
theorem exists_origin_of_keep {severity : Severity} {names : List String}
    {write : Origin → Option String} (hkeep : j.keep severity names write = .ok (some line)) :
    ∃ origin, write origin = some line := by
  unfold keep at hkeep
  split_ifs at hkeep
  · cases hkeep
  · split at hkeep
    · cases hkeep
    · cases hkeep
    · exact ⟨_, Except.ok.inj hkeep⟩

/-- **What is told to a journal gives a line with a message on one line.** -/
theorem tellsOneLine {h : Heap} {table : ModuleTable} {timestamp source kind : String}
    {severity : Severity} {message : Option String} {fields : List (String × ObjectId)}
    (hline : j.line h table timestamp source kind severity message fields = .ok (some line)) :
    TellsOneLine line := by
  obtain ⟨origin, hwrite⟩ := exists_origin_of_keep hline
  exact Entry.tellsOneLine_of_writeAt (toOption_eq_some_iff.mp hwrite)

/-- **The line of an event of a build tells a message on one line.** -/
theorem tellsOneLine_of_event {timestamp : String} {e : Event}
    (hline : j.lineOf timestamp e = .ok (some line)) : TellsOneLine line := by
  obtain ⟨origin, hwrite⟩ := exists_origin_of_keep hline
  exact ⟨_, _, Option.some.inj hwrite, member?_lineMembers_of_not_isDetail (by decide) rfl,
    isOneLine_message e.message⟩

end Journal

/-! ### Builds -/

/-- The identifier that a number stands for: its last thirty-two hexadecimal digits. -/
def hexIdentifier (n : Nat) : String :=
  String.ofList (hexPadded 32 n)

theorem notBlank_of_mem_hexPadded {width n : Nat} {c : Char} (hc : c ∈ hexPadded width n) :
    isBlank c = false := by
  have hdigit : ∀ d < 16, isBlank (hexDigit d) = false := by decide
  induction width generalizing n with
  | zero => cases hc
  | succ width ih =>
    rw [hexPadded, List.mem_append, List.mem_singleton] at hc
    rcases hc with hc | rfl
    · exact ih hc
    · exact hdigit _ (Nat.mod_lt n (by decide))

theorem isOneLine_hexIdentifier (n : Nat) : IsOneLine nameLimit (hexIdentifier n) := by
  refine .of_notBlank (fun c hc => ?_) ?_
  · rw [hexIdentifier, String.toList_ofList] at hc
    exact notBlank_of_mem_hexPadded hc
  · rw [hexIdentifier, String.length_ofList, length_hexPadded]
    decide

/-- **The identifier of a build is on one line**, whatever is given. -/
theorem isOneLine_buildIdentifier (given : Option String) (n : Nat) :
    IsOneLine nameLimit (buildIdentifier given (hexIdentifier n)) := by
  rw [buildIdentifier]
  split_ifs
  · exact isOneLine_hexIdentifier n
  · exact isOneLine_oneLine _ (by decide)

namespace Journal

/-- What can become of a journal between events: it is set up, and builds are entered and left. -/
inductive Step : Journal → Journal → Prop
  | configure (j : Journal) (vars : Variables) (service environment version level : Option String) :
      Step j (j.configure vars service environment version level).2
  | enter (j : Journal) (given : Option String) (n : Nat) :
      Step j (j.enter (buildIdentifier given (hexIdentifier n)))
  | leave (j : Journal) : Step j j.leave

variable {j j' : Journal}

@[simp] theorem builds_configure (vars : Variables)
    (service environment version level : Option String) :
    (j.configure vars service environment version level).2.builds = j.builds := by
  unfold configure
  dsimp only
  split <;> rfl

theorem Step.isOneLine (hstep : Step j j') (hj : ∀ build ∈ j.builds, IsOneLine nameLimit build) :
    ∀ build ∈ j'.builds, IsOneLine nameLimit build := by
  cases hstep with
  | configure => rwa [builds_configure]
  | enter given n => exact List.forall_mem_cons.mpr ⟨isOneLine_buildIdentifier given n, hj⟩
  | leave => exact fun build hbuild => hj build (List.mem_of_mem_tail hbuild)

/-- **The builds of a journal have identifiers on one line**, whatever steps lead to it. -/
theorem isOneLine_of_steps (hsteps : Relation.ReflTransGen Step .start j) :
    ∀ build ∈ j.builds, IsOneLine nameLimit build := by
  induction hsteps with
  | refl => exact List.forall_mem_nil _
  | tail _ hstep ih => exact hstep.isOneLine ih

end Journal

/-- **Texts are told on one line.** For every limit of at least one, the one-line form of a text is
on one line, and so its own only line; the texts that are on one line are their own one-line form,
and so is every one-line form. Hence the line of an entry, that of what is told to a journal, and
that of an event of a build tell messages on one line, and the builds of a journal have identifiers
on one line, whatever steps lead to it. -/
theorem oneLine_normalizes :
    (∀ (s : String) (limit : Int), 1 ≤ limit →
      IsOneLine limit (oneLine s limit) ∧
      (∀ l ∈ lines (oneLine s limit), l = oneLine s limit) ∧
      (oneLine s limit = s ↔ IsOneLine limit s) ∧
      oneLine (oneLine s limit) limit = oneLine s limit) ∧
    (∀ (h : Heap) (table : ModuleTable) (origin : Origin) (build : Option String) (e : Entry) line,
      e.write h table origin build = .ok line → TellsOneLine line) ∧
    (∀ (j : Journal) h table timestamp source kind severity message fields line,
      j.line h table timestamp source kind severity message fields = .ok (some line) →
        TellsOneLine line) ∧
    (∀ (j : Journal) timestamp e line,
      j.lineOf timestamp e = .ok (some line) → TellsOneLine line) ∧
    ∀ j, Relation.ReflTransGen Journal.Step .start j →
      ∀ build ∈ j.builds, IsOneLine nameLimit build := by
  refine ⟨fun s limit hlimit => ?_, fun h table origin build e line => Entry.tellsOneLine,
    fun j h table timestamp source kind severity message fields line => Journal.tellsOneLine,
    fun j timestamp e line => Journal.tellsOneLine_of_event,
    fun j => Journal.isOneLine_of_steps⟩
  have hline := isOneLine_oneLine s hlimit
  exact ⟨hline, forall_mem_lines_eq_iff.mpr hline.notBoundary, oneLine_eq_self_iff hlimit,
    hline.oneLine_eq⟩

/-- The message of an entry on two lines. -/
def twoLineHeap : Heap := ⟨#[.constant (.text "one shelf\none book")]⟩

/-- An entry with that message. -/
def twoLineEntry : Entry := .ofAttributes [("msg", 0)] none

/-- A journal that keeps every entry. -/
def shopJournal : Journal := ⟨some ⟨"shop", "test", "1"⟩, 0, []⟩

/-- A journal that is set up before a build is entered whose identifier is given on two lines. -/
def nightJournal : Journal :=
  (Journal.start.configure [] none none none none).2.enter
    (buildIdentifier (some " night\nbuild ") (hexIdentifier 0))

theorem builds_nightJournal : nightJournal.builds = ["night build"] := by
  have hgiven : buildIdentifier (some " night\nbuild ") (hexIdentifier 0) = "night build" := by
    decide +kernel
  rw [nightJournal, Journal.enter, Journal.builds_configure, hgiven, Journal.start]

/-- A text that is cut next to blanks, messages of two lines, and a build whose identifier is given
on two lines. -/
theorem oneLine_normalizes_twoLines :
    (oneLine "a\r\nb\u2028 c d  " 6 = "a b  …" ∧ IsOneLine 6 "a b  …" ∧
      oneLine "a b  …" 6 = "a b  …") ∧
    (∃ line, twoLineEntry.write twoLineHeap .empty ⟨"shop", "test", "1"⟩ none = .ok line ∧
      TellsOneLine line) ∧
    (∃ line, shopJournal.line twoLineHeap .empty "now" "shop" "closed" .info (some "one\ntwo") [] =
      .ok (some line) ∧ TellsOneLine line) ∧
    (∃ line, shopJournal.lineOf "now" (.remark "shop" "one\ntwo") = .ok (some line) ∧
      TellsOneLine line) ∧
    Relation.ReflTransGen Journal.Step .start nightJournal ∧ IsOneLine nameLimit "night build" := by
  obtain ⟨htexts, hentries, htold, hevents, hbuilds⟩ := oneLine_normalizes
  have hcut : oneLine "a\r\nb\u2028 c d  " 6 = "a b  …" := by decide +kernel
  obtain ⟨hline, -, -, hagain⟩ := htexts "a\r\nb\u2028 c d  " 6 (by decide)
  rw [hcut] at hline hagain
  have hsteps : Relation.ReflTransGen Journal.Step .start nightJournal :=
    .tail (.tail .refl (.configure _ [] none none none none))
      (.enter _ (some " night\nbuild ") 0)
  refine ⟨⟨hcut, hline, hagain⟩, ⟨_, rfl, ?_⟩, ⟨_, rfl, ?_⟩, ⟨_, rfl, ?_⟩, hsteps, ?_⟩
  · exact hentries twoLineHeap .empty ⟨"shop", "test", "1"⟩ none twoLineEntry _ rfl
  · exact htold shopJournal twoLineHeap .empty "now" "shop" "closed" .info (some "one\ntwo") [] _
      rfl
  · exact hevents shopJournal "now" (.remark "shop" "one\ntwo") _ rfl
  · exact hbuilds nightJournal hsteps _ (builds_nightJournal ▸ List.mem_cons_self)

end HandlerBundle
