import HandlerBundle.Journal.Entry
import HandlerBundle.Proofs.Json.Member
import HandlerBundle.Proofs.Results

/-!
# What the line of an entry tells

The line of an entry is an object. It has the members of every entry, a trace if the entry tells of
a failure, and the details. A detail never has the name of a member of every entry, so that these
are told as the entry has them, whatever its details are called. The name of the trace is no such
name: a detail that has it is told in the place of the trace.

## Main definitions

* `Entry.IsWritable` — entries that have a line.
* `Entry.IsTold` — what the members of a line are.

## Main results

* `Entry.write_eq_ok_iff` — the line of an entry is that of its members.
* `Entry.line_tells_members_and_details`
-/

namespace HandlerBundle

/-! ### The members of a line -/

section Members

variable {α : Type} {text : String → α} {origin : Origin} {timestamp message name : String}
  {severity : Severity} {build kind source value : α} {trace : Option String}
  {attributes : List (String × α)}

/-- A name that no detail has keeps the member that it has without details. -/
theorem find?_lineMembers_of_not_isDetail (hname : isDetail name = false)
    (hcore : (lineMembers text origin timestamp severity build kind message source trace []).find?
      (fun m => m.1 == name) = some (name, value)) :
    (lineMembers text origin timestamp severity build kind message source trace attributes).find?
      (fun m => m.1 == name) = some (name, value) := by
  refine (Json.find?_foldl_put_of_ne fun m hm heq => ?_).trans hcore
  have hdetail := (List.mem_filter.mp hm).2
  rw [heq, hname] at hdetail
  exact Bool.false_ne_true hdetail

theorem member?_lineMembers_of_not_isDetail {text : String → Json} {build kind source value : Json}
    {attributes : List (String × Json)} (hname : isDetail name = false)
    (hcore : (lineMembers text origin timestamp severity build kind message source trace []).find?
      (fun m => m.1 == name) = some (name, value)) :
    Json.member? (lineMembers text origin timestamp severity build kind message source trace
      attributes) name = some value := by
  rw [Json.member?, find?_lineMembers_of_not_isDetail hname hcore]
  rfl

/-- A detail is found under its name. -/
theorem find?_lineMembers_of_isDetail (hname : isDetail name = true)
    (hdistinct : (attributes.map Prod.fst).Nodup) (hmem : (name, value) ∈ attributes) :
    (lineMembers text origin timestamp severity build kind message source trace attributes).find?
      (fun m => m.1 == name) = some (name, value) := by
  have hdetails : ((attributes.filter fun a => isDetail a.1).reverse.map Prod.fst).Nodup := by
    rw [List.map_reverse, List.nodup_reverse]
    exact hdistinct.sublist (List.filter_sublist.map _)
  have hdetail : (name, value) ∈ (attributes.filter fun a => isDetail a.1).reverse :=
    List.mem_reverse.mpr (List.mem_filter.mpr ⟨hmem, hname⟩)
  rw [lineMembers, Json.find?_foldl_put, Json.find?_eq_some_of_mem hdetails hdetail,
    Option.some_or]

/-- The same for a name that the entry does not have. -/
theorem find?_lineMembers_of_notMem (hname : name ∉ attributes.map Prod.fst)
    (hcore : (lineMembers text origin timestamp severity build kind message source trace []).find?
      (fun m => m.1 == name) = some (name, value)) :
    (lineMembers text origin timestamp severity build kind message source trace attributes).find?
      (fun m => m.1 == name) = some (name, value) :=
  (Json.find?_foldl_put_of_ne fun m hm heq => hname <| by
    rw [← heq]
    exact List.mem_map_of_mem (List.mem_of_mem_filter hm)).trans hcore

/-- The names of the members are different from each other. -/
theorem nodup_lineMembers :
    ((lineMembers text origin timestamp severity build kind message source trace attributes).map
      Prod.fst).Nodup := by
  refine Json.nodup_foldl_put ?_
  cases trace with
  | none => exact (by decide : memberNames.Nodup)
  | some t => exact (by decide : (memberNames ++ ["exception"]).Nodup)

/-- The names of the members are those of every entry, that of the trace, and those of the
details. -/
theorem mem_lineMembers_iff :
    name ∈ (lineMembers text origin timestamp severity build kind message source trace
        attributes).map Prod.fst ↔
      name ∈ memberNames ∨ (name = "exception" ∧ trace.isSome = true) ∨
        (isDetail name = true ∧ name ∈ attributes.map Prod.fst) := by
  rw [lineMembers, Json.mem_foldl_put_iff, List.map_append, List.mem_append, or_assoc]
  refine or_congr Iff.rfl (or_congr ?_ ?_)
  · cases trace <;> simp
  · simp only [List.mem_map, List.mem_filter]
    constructor
    · rintro ⟨m, ⟨hm, hdetail⟩, rfl⟩
      exact ⟨hdetail, m, hm, rfl⟩
    · rintro ⟨hdetail, m, hm, rfl⟩
      exact ⟨m, ⟨hm, hdetail⟩, rfl⟩

/-- What holds of every text, of the other members of every entry and of the details holds of all
members. -/
theorem forall_mem_lineMembers {P : α → Prop} (htext : ∀ s, P (text s)) (hbuild : P build)
    (hkind : P kind) (hsource : P source)
    (hdetail : ∀ m ∈ attributes, isDetail m.1 = true → P m.2) :
    ∀ m ∈ lineMembers text origin timestamp severity build kind message source trace attributes,
      P m.2 := by
  intro m hm
  rcases Json.mem_of_mem_foldl_put hm with hm | hm
  · rcases List.mem_append.mp hm with hm | hm
    · simp only [List.mem_cons, List.not_mem_nil, or_false] at hm
      rcases hm with rfl | rfl | rfl | rfl | rfl | rfl | rfl | rfl | rfl
      exacts [htext _, htext _, htext _, htext _, htext _, hbuild, hkind, htext _, hsource]
    · rw [Option.mem_toList, Option.map_eq_some_iff] at hm
      obtain ⟨t, -, rfl⟩ := hm
      exact htext t
  · obtain ⟨hmem, hname⟩ := List.mem_filter.mp hm
    exact hdetail m hmem hname

end Members

/-! ### Members that are all told -/

section Told

variable {ε : Type} {members : List (String × Json)} {name : String} {value : Except ε Json}
  {told : List (String × Except ε Json)}

/-- Members are all told if they are values with their names. -/
theorem mapM_told_eq_ok_iff :
    told.mapM (fun m => m.2.map fun v => (m.1, v)) = .ok members ↔
      told = members.map fun m => (m.1, .ok m.2) := by
  have hmember : ∀ (t : String × Except ε Json) (m : String × Json),
      t.2.map (fun v => (t.1, v)) = .ok m ↔ t = (m.1, .ok m.2) := by
    rintro ⟨n, v⟩ ⟨n', v'⟩
    cases v <;> simp [Except.map]
  rw [mapM_eq_ok_iff]
  simp only [hmember]
  rw [← List.forall₂_map_right_iff (R := Eq), List.forall₂_eq_eq_eq]

theorem exists_told (htold : ∀ m ∈ told, ∃ v, m.2 = .ok v) :
    ∃ members : List (String × Json), told = members.map fun m => (m.1, .ok m.2) := by
  induction told with
  | nil => exact ⟨[], rfl⟩
  | cons m told ih =>
    rw [List.forall_mem_cons] at htold
    obtain ⟨⟨v, hv⟩, htold⟩ := htold
    obtain ⟨members, rfl⟩ := ih htold
    exact ⟨(m.1, v) :: members, by rw [List.map_cons, ← hv]⟩

/-- A member that is told is found with its value. -/
theorem exists_member?_of_find? (htold : told = members.map fun m => (m.1, .ok m.2))
    (hfind : told.find? (fun m => m.1 == name) = some (name, value)) :
    ∃ v, value = .ok v ∧ Json.member? members name = some v := by
  rw [htold, List.find?_map, Option.map_eq_some_iff] at hfind
  obtain ⟨m, hm, heq⟩ := hfind
  refine ⟨m.2, (Prod.mk.inj heq).2.symm, ?_⟩
  rw [Json.member?]
  exact congrArg (Option.map Prod.snd) hm

end Told

/-! ### Entries -/

namespace Entry

variable {h : Heap} {table : ModuleTable} {origin : Origin} {build : Option String} {e : Entry}
  {attributes : List (String × ObjectId)} {failure : Option Failure} {name : String}
  {id : ObjectId} {timestamp line : String} {members : List (String × Json)}

theorem nodup_ofAttributes : ((ofAttributes attributes failure).attributes.map Prod.fst).Nodup :=
  Json.nodup_foldl_put List.nodup_nil

theorem mem_attributes_of_attribute? (hid : e.attribute? name = some id) :
    (name, id) ∈ e.attributes := by
  obtain ⟨before, after, heq, -⟩ := List.lookup_eq_some_iff.mp hid
  exact heq ▸ List.mem_append_right _ List.mem_cons_self

theorem attribute?_eq_none_iff : e.attribute? name = none ↔ name ∉ e.attributes.map Prod.fst := by
  rw [attribute?, List.lookup_eq_none_iff]
  constructor
  · rintro h hmem
    obtain ⟨a, ha, rfl⟩ := List.mem_map.mp hmem
    exact bne_iff_ne.mp (h a ha) rfl
  · exact fun h a ha => bne_iff_ne.mpr fun heq => h (heq ▸ List.mem_map_of_mem ha)

theorem isSome_attribute?_iff :
    (e.attribute? name).isSome = true ↔ name ∈ e.attributes.map Prod.fst := by
  rw [Option.isSome_iff_ne_none, ne_eq, attribute?_eq_none_iff, not_not]

/-- If the names are different from each other, an entry has every attribute under its name. -/
theorem attribute?_eq_some_iff (hdistinct : (e.attributes.map Prod.fst).Nodup) :
    e.attribute? name = some id ↔ (name, id) ∈ e.attributes := by
  refine ⟨mem_attributes_of_attribute?, fun hmem => ?_⟩
  cases hother : e.attribute? name with
  | none => exact absurd rfl (bne_iff_ne.mp (List.lookup_eq_none_iff.mp hother _ hmem))
  | some id' =>
    have hfind := Json.find?_eq_some_of_mem hdistinct (mem_attributes_of_attribute? hother)
    have hfind' := Json.find?_eq_some_of_mem hdistinct hmem
    exact congrArg (some ·.2) (Option.some.inj (hfind.symm.trans hfind'))

/-- The line of an entry at a written instant is that of its members. -/
theorem writeAt_eq_ok_iff : e.writeAt h table origin build timestamp = .ok line ↔
    ∃ message members, e.message h table = .ok message ∧
      e.members h table origin build timestamp message = (members.map fun m => (m.1, .ok m.2)) ∧
      (Json.object members).compact writtenLayout = line := by
  simp only [writeAt, bind_eq_ok_iff, mapError_eq_ok_iff, mapM_told_eq_ok_iff]
  constructor
  · rintro ⟨message, hmessage, members, htold, hline⟩
    exact ⟨message, members, hmessage, htold, Except.ok.inj hline⟩
  · rintro ⟨message, members, hmessage, htold, rfl⟩
    exact ⟨message, hmessage, members, htold, rfl⟩

/-- **The line of an entry is that of its members**, once its instant and its message are written
and each member has a value. -/
theorem write_eq_ok_iff : e.write h table origin build = .ok line ↔
    ∃ timestamp message members, (instant h e).bind Instant.write = .ok timestamp ∧
      e.message h table = .ok message ∧
      e.members h table origin build timestamp message = (members.map fun m => (m.1, .ok m.2)) ∧
      (Json.object members).compact writtenLayout = line := by
  simp only [write, bind_eq_ok_iff, mapError_eq_ok_iff, writeAt_eq_ok_iff, exists_and_left]

/-- An entry has a line if its instant and its message can be written and if all that it tells has
a JSON form. -/
structure IsWritable (h : Heap) (table : ModuleTable) (build : Option String) (e : Entry) :
    Prop where
  timestamp : ∃ s, (instant h e).bind Instant.write = .ok s
  message : ∃ s, e.message h table = .ok s
  build : ∃ v, e.givenJson h table "build_id" ((build.map Json.text).getD .null) = .ok v
  kind : ∃ v, e.givenJson h table "event_type" (.text "log") = .ok v
  source : ∀ id, e.attribute? "name" = some id → ∃ v, h.toJson table id = .ok v
  detail : ∀ name id, isDetail name = true → e.attribute? name = some id →
    ∃ v, h.toJson table id = .ok v

/-- What the members of the line of an entry are. -/
structure IsTold (h : Heap) (table : ModuleTable) (origin : Origin) (build : Option String)
    (e : Entry) (members : List (String × Json)) : Prop where
  distinct : (members.map Prod.fst).Nodup
  timestamp : ∃ s, (instant h e).bind Instant.write = .ok s ∧
    Json.member? members "timestamp" = some (.text s)
  severity : Json.member? members "severity" = some (.text (e.severity h).name)
  service : Json.member? members "service" = some (.text origin.service)
  environment : Json.member? members "env" = some (.text origin.environment)
  version : Json.member? members "version" = some (.text origin.version)
  build : ∃ v, e.givenJson h table "build_id" ((build.map Json.text).getD .null) = .ok v ∧
    Json.member? members "build_id" = some v
  kind : ∃ v, e.givenJson h table "event_type" (.text "log") = .ok v ∧
    Json.member? members "event_type" = some v
  message : ∃ s, e.message h table = .ok s ∧ Json.member? members "message" = some (.text s)
  source : ∀ id, e.attribute? "name" = some id →
    ∃ v, h.toJson table id = .ok v ∧ Json.member? members "logger" = some v
  /-- The trace is told unless a detail has its name. -/
  trace : ∀ f, e.failure = some f → e.attribute? "exception" = none →
    Json.member? members "exception" = some (.text f.trace)
  detail : ∀ name id, isDetail name = true → e.attribute? name = some id →
    ∃ v, h.toJson table id = .ok v ∧ Json.member? members name = some v
  /-- Nothing else is told. -/
  only : ∀ name ∈ members.map Prod.fst, name ∈ memberNames ∨
    (name = "exception" ∧ e.failure.isSome = true) ∨
      (isDetail name = true ∧ (e.attribute? name).isSome = true)

theorem mem_attributes_toJson (hid : e.attribute? name = some id) :
    (name, h.toJson table id) ∈ e.attributes.map fun a => (a.1, h.toJson table a.2) :=
  List.mem_map.mpr ⟨(name, id), mem_attributes_of_attribute? hid, rfl⟩

theorem map_fst_attributes_toJson (h : Heap) (table : ModuleTable) (e : Entry) :
    (e.attributes.map fun a => (a.1, h.toJson table a.2)).map Prod.fst =
      e.attributes.map Prod.fst := by
  rw [List.map_map]
  rfl

/-- Members that are all told are what the entry has. -/
theorem isTold_of_members_eq (hdistinct : (e.attributes.map Prod.fst).Nodup) {message : String}
    (htimestamp : (instant h e).bind Instant.write = .ok timestamp)
    (hmessage : e.message h table = .ok message)
    (htold : e.members h table origin build timestamp message =
      members.map fun m => (m.1, .ok m.2)) : e.IsTold h table origin build members := by
  have hfind : ∀ {name value}, (e.members h table origin build timestamp message).find?
      (fun m => m.1 == name) = some (name, value) →
      ∃ v, value = .ok v ∧ Json.member? members name = some v := exists_member?_of_find? htold
  have htext : ∀ {name s}, (e.members h table origin build timestamp message).find?
      (fun m => m.1 == name) = some (name, .ok (.text s)) →
      Json.member? members name = some (.text s) := by
    intro name s h
    obtain ⟨v, hv, hmember⟩ := hfind h
    rw [hmember, ← Except.ok.inj hv]
  have hnames : members.map Prod.fst =
      (e.members h table origin build timestamp message).map Prod.fst := by
    rw [htold, List.map_map]
    rfl
  exact
    { distinct := hnames ▸ nodup_lineMembers
      timestamp := ⟨timestamp, htimestamp,
        htext (find?_lineMembers_of_not_isDetail (by decide) rfl)⟩
      severity := htext (find?_lineMembers_of_not_isDetail (by decide) rfl)
      service := htext (find?_lineMembers_of_not_isDetail (by decide) rfl)
      environment := htext (find?_lineMembers_of_not_isDetail (by decide) rfl)
      version := htext (find?_lineMembers_of_not_isDetail (by decide) rfl)
      build := hfind (find?_lineMembers_of_not_isDetail (by decide) rfl)
      kind := hfind (find?_lineMembers_of_not_isDetail (by decide) rfl)
      message := ⟨message, hmessage,
        htext (find?_lineMembers_of_not_isDetail (by decide) rfl)⟩
      source := fun id hid => by
        refine hfind (find?_lineMembers_of_not_isDetail (by decide) ?_)
        rw [hid]
        rfl
      trace := fun f hf hnone => by
        refine htext (find?_lineMembers_of_notMem ?_ ?_)
        · rw [map_fst_attributes_toJson]
          exact attribute?_eq_none_iff.mp hnone
        · rw [hf]
          rfl
      detail := fun name id hname hid => by
        refine hfind (find?_lineMembers_of_isDetail hname ?_ (mem_attributes_toJson hid))
        rw [map_fst_attributes_toJson]
        exact hdistinct
      only := fun name hname => by
        rw [hnames, Entry.members, mem_lineMembers_iff, map_fst_attributes_toJson,
          Option.isSome_map] at hname
        rwa [isSome_attribute?_iff] }

/-- An entry that is writable has members that are all told. -/
theorem IsWritable.exists_members_eq (hwritable : e.IsWritable h table build)
    (hdistinct : (e.attributes.map Prod.fst).Nodup) (origin : Origin)
    (timestamp message : String) :
    ∃ members : List (String × Json), e.members h table origin build timestamp message =
      members.map fun m => (m.1, .ok m.2) := by
  refine exists_told (forall_mem_lineMembers
    (P := fun x : Except WritingError Json => ∃ v, x = .ok v) (fun s => ⟨.text s, rfl⟩)
    hwritable.build hwritable.kind ?_ ?_)
  · cases hname : e.attribute? "name" with
    | none => exact ⟨.null, rfl⟩
    | some id => exact hwritable.source id hname
  · rintro m hm hdetail
    obtain ⟨a, ha, rfl⟩ := List.mem_map.mp hm
    exact hwritable.detail a.1 a.2 hdetail ((attribute?_eq_some_iff hdistinct).mpr ha)

theorem IsTold.isWritable (htold : e.IsTold h table origin build members) :
    e.IsWritable h table build where
  timestamp := htold.timestamp.imp fun _ h => h.1
  message := htold.message.imp fun _ h => h.1
  build := htold.build.imp fun _ h => h.1
  kind := htold.kind.imp fun _ h => h.1
  source id hid := (htold.source id hid).imp fun _ h => h.1
  detail name id hname hid := (htold.detail name id hname hid).imp fun _ h => h.1

/-- **A line tells the members of every entry and the details.** An entry, whatever attributes it
has, has a line exactly if all that it tells can be written. The members of every entry are then
what the entry has for them, no matter which details there are, and each detail is told under its
name. So is the trace of a failure, unless a detail has its name. -/
theorem line_tells_members_and_details (h : Heap) (table : ModuleTable) (origin : Origin)
    (build : Option String) (attributes : List (String × ObjectId)) (failure : Option Failure) :
    ((∃ line, (ofAttributes attributes failure).write h table origin build = .ok line) ↔
      (ofAttributes attributes failure).IsWritable h table build) ∧
    ∀ line, (ofAttributes attributes failure).write h table origin build = .ok line →
      ∃ members, (Json.object members).compact writtenLayout = line ∧
        (ofAttributes attributes failure).IsTold h table origin build members := by
  have htold : ∀ line, (ofAttributes attributes failure).write h table origin build = .ok line →
      ∃ members, (Json.object members).compact writtenLayout = line ∧
        (ofAttributes attributes failure).IsTold h table origin build members := by
    intro line hline
    obtain ⟨timestamp, message, members, htimestamp, hmessage, hmembers, hline⟩ :=
      write_eq_ok_iff.mp hline
    exact ⟨members, hline, isTold_of_members_eq nodup_ofAttributes htimestamp hmessage hmembers⟩
  refine ⟨⟨?_, fun hwritable => ?_⟩, htold⟩
  · rintro ⟨line, hline⟩
    obtain ⟨members, -, hmembers⟩ := htold line hline
    exact hmembers.isWritable
  · obtain ⟨timestamp, htimestamp⟩ := hwritable.timestamp
    obtain ⟨message, hmessage⟩ := hwritable.message
    obtain ⟨members, hmembers⟩ :=
      hwritable.exists_members_eq nodup_ofAttributes origin timestamp message
    exact ⟨_, write_eq_ok_iff.mpr ⟨timestamp, message, members, htimestamp, hmessage, hmembers,
      rfl⟩⟩

/-- The texts in an entry. -/
def noticeHeap : Heap :=
  ⟨#[.constant (.text "closed"), .constant (.text "nowhere"), .constant (.text "shelf"),
    .constant (.text "none")]⟩

/-- An entry that tells of a failure. One of its details has the name of a member of every entry,
and one that of the trace. -/
def notice : Entry :=
  .ofAttributes [("msg", 0), ("env", 1), ("place", 2), ("exception", 3)]
    (some ⟨.foreign "ValueError", "boom"⟩)

theorem toJson_noticeHeap (hid : notice.attribute? name = some id) :
    ∃ v, noticeHeap.toJson .empty id = .ok v := by
  have hmem : (name, id) ∈ [("msg", 0), ("env", 1), ("place", 2), ("exception", 3)] :=
    mem_attributes_of_attribute? hid
  have hall : ∀ a ∈ [("msg", 0), ("env", 1), ("place", 2), ("exception", 3)],
      (noticeHeap.toJson .empty a.2).isOk = true := by decide +kernel
  have hok := hall _ hmem
  cases hv : noticeHeap.toJson .empty id with
  | ok v => exact ⟨v, rfl⟩
  | error e => rw [hv] at hok; cases hok

/-- The detail with the name of the environment is not told; the one with the name of the trace is
told in its place. -/
theorem line_tells_members_and_details_notice :
    ∃ line members, notice.write noticeHeap .empty ⟨"shop", "test", "1"⟩ none = .ok line ∧
      (Json.object members).compact writtenLayout = line ∧
      Json.member? members "message" = some (.text "closed") ∧
      Json.member? members "env" = some (.text "test") ∧
      Json.member? members "place" = some (.text "shelf") ∧
      Json.member? members "exception" = some (.text "none") := by
  have hmessage : notice.message noticeHeap .empty = .ok (oneLine "closed" messageLimit) := rfl
  have hline : oneLine "closed" messageLimit = "closed" := by decide +kernel
  have hshelf : noticeHeap.toJson .empty 2 = .ok (.text "shelf") := rfl
  have hnone : noticeHeap.toJson .empty 3 = .ok (.text "none") := rfl
  have hwritable : notice.IsWritable noticeHeap .empty none :=
    { timestamp := ⟨_, rfl⟩
      message := ⟨_, hmessage⟩
      build := ⟨_, rfl⟩
      kind := ⟨_, rfl⟩
      source := fun _ => toJson_noticeHeap
      detail := fun _ _ _ => toJson_noticeHeap }
  obtain ⟨hwritten, htold⟩ := line_tells_members_and_details noticeHeap .empty
    ⟨"shop", "test", "1"⟩ none [("msg", 0), ("env", 1), ("place", 2), ("exception", 3)]
    (some ⟨.foreign "ValueError", "boom"⟩)
  obtain ⟨line, hwrite⟩ := hwritten.mpr hwritable
  obtain ⟨members, hcompact, hmembers⟩ := htold line hwrite
  refine ⟨line, members, hwrite, hcompact, ?_, hmembers.environment, ?_, ?_⟩
  · obtain ⟨s, hs, hmember⟩ := hmembers.message
    rw [hmember, ← Except.ok.inj (hmessage.symm.trans hs), hline]
  · obtain ⟨v, hv, hmember⟩ := hmembers.detail "place" 2 (by decide) rfl
    rw [hmember, ← Except.ok.inj (hshelf.symm.trans hv)]
  · obtain ⟨v, hv, hmember⟩ := hmembers.detail "exception" 3 (by decide) rfl
    rw [hmember, ← Except.ok.inj (hnone.symm.trans hv)]

end Entry

end HandlerBundle
