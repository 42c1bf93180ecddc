import HandlerBundle.Host.Restore
import HandlerBundle.Proofs.Module.Layout

/-!
# Malformed archives

Reading an archive always ends, with records or with a failure. A host that reads bytes that are no
archive learns of it by a failure of its own, with one exception: where a record that the archive
counts has a name that is no text, the failure is the one of reading the text. What stands behind
such a name does not matter, and neither does anything behind the last record.

## Main definitions

* `Archive.HasBadName` — byte strings with a name that is no text in a place where a record is read.

## Main results

* `Archive.decode_eq_badName_iff` — the byte strings that are refused because of a name.
* `Archive.decode_failure_cases` — what becomes of a byte string.
-/

namespace HandlerBundle

namespace Archive

/-- The bytes of an archive with a name that is no text, behind fewer records than it counts. -/
def HasBadName (bs : Bytes) (cause : Utf8.DecodeError) : Prop :=
  ∃ count body rs rest, count < 2 ^ 32 ∧ bs = header count ++ body ∧ rs.length < count ∧
    BeginsWith rs rest body ∧ NamesNoText rest cause

variable {bs : Bytes} {rs : List ModuleRecord} {e : DecodeError} {cause : Utf8.DecodeError}

theorem decode_of_hasBadName (h : HasBadName bs cause) : decode bs = .error (.badName cause) := by
  obtain ⟨count, body, rs, rest, hcount, rfl, hlt, hrs, hname⟩ := h
  exact decode_of_namesNoText hcount hlt hrs hname

/-- A byte string is refused because of a name only if there is such a name: all else that it can
be refused for is another error. -/
theorem hasBadName_of_decode (h : decode bs = .error (.badName cause)) : HasBadName bs cause := by
  rcases decode_cases bs with ⟨count, hcount, body, rfl⟩ | ⟨e, he, hother⟩
  · rcases decodeRecords_cases (header count ++ body).length 9 body count with
      ⟨rs, rest, rfl, hrs⟩ | ⟨rs, rest, cause', hlt, hrs, hname⟩ | ⟨e, he, hother⟩
    · cases (decode_of_beginsWith hcount hrs).symm.trans h
    · have hbad : HasBadName (header count ++ body) cause' :=
        ⟨count, body, rs, rest, hcount, rfl, hlt, hrs, hname⟩
      obtain rfl := DecodeError.badName.inj
        (Except.error.inj ((decode_of_hasBadName hbad).symm.trans h))
      exact hbad
    · rw [decode_header_append hcount] at h
      exact absurd (Except.error.inj (he.symm.trans h)) (hother cause)
  · exact absurd (Except.error.inj (he.symm.trans h)) (hother cause)

/-- The byte strings that are refused because of a name, and for what is wrong with it. -/
theorem decode_eq_badName_iff : decode bs = .error (.badName cause) ↔ HasBadName bs cause :=
  ⟨hasBadName_of_decode, decode_of_hasBadName⟩

/-- All failures but those of names are the host's own. -/
theorem DecodeError.kind_failure (h : ∀ cause, e ≠ .badName cause) :
    e.failure.kind = .foreign "RehydrationError" := by
  cases e with
  | badName cause => exact absurd rfl (h cause)
  | _ => rfl

/-- **What becomes of a byte string.** It is read as records, or it fails with an error of the host,
or it fails with the error of reading a name as text. The last happens exactly if the records that
it counts are there up to one with a name that is no text. -/
theorem decode_failure_cases (bs : Bytes) :
    (∀ cause, decode bs = .error (.badName cause) ↔ HasBadName bs cause) ∧
    ((∃ rs, decode bs = .ok rs) ∨
      (∃ e, decode bs = .error e ∧ e.failure.kind = .foreign "RehydrationError") ∨
      ∃ cause, decode bs = .error (.badName cause) ∧
        (DecodeError.badName cause).failure = ⟨.foreign "UnicodeDecodeError", cause.message⟩) := by
  refine ⟨fun cause => decode_eq_badName_iff, ?_⟩
  cases decode bs with
  | ok rs => exact .inl ⟨rs, rfl⟩
  | error e =>
    by_cases hname : ∃ cause, e = .badName cause
    · obtain ⟨cause, rfl⟩ := hname
      exact .inr (.inr ⟨cause, rfl, rfl⟩)
    · exact .inr (.inl ⟨e, rfl, DecodeError.kind_failure fun cause h => hname ⟨cause, h⟩⟩)

/-- The name of the only record is a byte that no text has. -/
example :
    ((decode (header 1 ++ [0, 1, 0xFF, 0, 0, 0, 0, 0])).mapError DecodeError.failure) =
      .error ⟨.foreign "UnicodeDecodeError",
        "'utf-8' codec can't decode byte 0xff in position 0: invalid start byte"⟩ := by
  decide +kernel

end Archive

end HandlerBundle
