import RomCompiler.CommandLine.Run
import RomCompiler.Proofs.FileSystem.Save
import RomCompiler.Proofs.Text.Trim

/-! # The listing that a run is given

A run is given a listing by the standard input or by a file, or it has none. What counts as its text
is told here from the bytes alone: they are those of a text in UTF-8, and the listing is this text
up to the blanks at its end.
* **`BytesOf`** — the bytes that a source has.
* **`Supplied`** — the listing of a source, or the fault of one that has none.
* **`supplied_iff`** — a run reads just this listing, and changes no files by that. -/

namespace RomCompiler.CommandLine

open Text

/-- **The bytes of a source**, or the refusal to read them. The source `-` is the standard input,
and any other one is the file of its name. -/
inductive BytesOf (standardInput : Bytes) (files : FileSystem) :
    Text → Except Refusal Bytes → Prop
  /-- `-`: the standard input. -/
  | standardInput : BytesOf standardInput files ['-'] (.ok standardInput)
  /-- A name that is not `-`: the file. -/
  | file {name : Text} (h : name ≠ ['-']) : BytesOf standardInput files name (files.read name)

/-- **The listing of a source**, or the fault of one that has none:
`Supplied standardInput files source result`. -/
inductive Supplied (standardInput : Bytes) (files : FileSystem) :
    Option Text → Except SourceFault (Option Text) → Prop
  /-- No source, no listing. -/
  | nothing : Supplied standardInput files none (.ok none)
  /-- The listing is the text in the bytes of the source, without the blanks at its end. -/
  | listing {name text space : Text}
      (h : BytesOf standardInput files name (.ok (toUtf8 (text ++ space))))
      (hspace : AllBlank space) (hlast : ∀ c ∈ text.getLast?, isBlank c = false) :
      Supplied standardInput files (some name) (.ok (some text))
  /-- The bytes of the source are those of no text. -/
  | notText {name : Text} {bytes : Bytes} (h : BytesOf standardInput files name (.ok bytes))
      (hbytes : ∀ text, bytes ≠ toUtf8 text) :
      Supplied standardInput files (some name) (.error .notText)
  /-- The source is not read. -/
  | refused {name : Text} {refusal : Refusal}
      (h : BytesOf standardInput files name (.error refusal)) :
      Supplied standardInput files (some name) (.error (.refused refusal))

/-- `sourceIn standardInput source files`: the listing that a run reads, the result of `readSource`.
-/
def sourceIn (standardInput : Bytes) (source : Option Text) (files : FileSystem) :
    Except SourceFault (Option Text) :=
  ((readSource (pure standardInput : StateM FileSystem Bytes) source).run files).1

variable {standardInput : Bytes} {files : FileSystem} {name text : Text} {source : Option Text}
  {result : Except SourceFault (Option Text)}

/-! ## The bytes of a source -/

/-- `∃ answer, BytesOf standardInput files name answer`: every source has bytes, or they are
refused. -/
theorem exists_bytesOf (standardInput : Bytes) (files : FileSystem) (name : Text) :
    ∃ answer, BytesOf standardInput files name answer := by
  by_cases h : name = ['-']
  · rw [h]
    exact ⟨_, .standardInput⟩
  · exact ⟨_, .file h⟩

/-- A run reads the bytes of its source, and changes no files. -/
theorem BytesOf.run_readBytes {answer : Except Refusal Bytes}
    (h : BytesOf standardInput files name answer) :
    (readBytes (pure standardInput : StateM FileSystem Bytes) name).run files =
      (answer, files) := by
  cases h with
  | standardInput =>
    have hname : ['-'] = standardInputName := rfl
    rw [readBytes, if_pos hname]
    rfl
  | file hname =>
    have hname' : name ≠ standardInputName := hname
    rw [readBytes, if_neg hname']
    rfl

/-- Reading a listing changes no files. -/
theorem run_readSource (standardInput : Bytes) (source : Option Text) (files : FileSystem) :
    (readSource (pure standardInput : StateM FileSystem Bytes) source).run files =
      (sourceIn standardInput source files, files) := by
  rcases source with _ | name
  · rfl
  · obtain ⟨answer, hanswer⟩ := exists_bytesOf standardInput files name
    rw [sourceIn, readSource, run_bind_of_run hanswer.run_readBytes]
    -- what is done with the answer is pure
    rcases answer with refusal | bytes <;> rfl

/-! ## The listing of a source -/

/-- The listing that is read from the bytes of a text is this text without the blanks at its
end. -/
theorem BytesOf.sourceIn_eq_trimEnd (h : BytesOf standardInput files name (.ok (toUtf8 text))) :
    sourceIn standardInput (some name) files = .ok (some (trimEnd text)) := by
  rw [sourceIn, readSource, run_bind_of_run h.run_readBytes]
  change some <$> listingOf (toUtf8 text) = _
  rw [listingOf, ofUtf8?_toUtf8]
  rfl

/-- `listingOf bytes = .error .notText`: bytes that hold no text have no listing. -/
theorem listingOf_of_ne {bytes : Bytes} (h : ∀ text, bytes ≠ toUtf8 text) :
    listingOf bytes = .error .notText := by
  have hnone : ofUtf8? bytes = none := by
    rw [Option.eq_none_iff_forall_ne_some]
    intro text htext
    exact h text (ofUtf8?_eq_some_iff.mp htext)
  rw [listingOf, hnone]

/-- `sourceIn standardInput source files = result`: a run reads the listing of its source. -/
theorem Supplied.sourceIn_eq (h : Supplied standardInput files source result) :
    sourceIn standardInput source files = result := by
  cases h with
  | nothing => rfl
  | listing h hspace hlast => rw [h.sourceIn_eq_trimEnd, trimEnd_append_eq_self hlast hspace]
  | notText h hbytes =>
    rw [sourceIn, readSource, run_bind_of_run h.run_readBytes]
    change some <$> listingOf _ = _
    rw [listingOf_of_ne hbytes]
    rfl
  | refused h =>
    rw [sourceIn, readSource, run_bind_of_run h.run_readBytes]
    rfl

/-- `∃ result, Supplied standardInput files source result`: every source has a listing, or the fault
of one that has none. -/
theorem exists_supplied (standardInput : Bytes) (files : FileSystem) (source : Option Text) :
    ∃ result, Supplied standardInput files source result := by
  rcases source with _ | name
  · exact ⟨_, .nothing⟩
  obtain ⟨answer, hanswer⟩ := exists_bytesOf standardInput files name
  rcases answer with refusal | bytes
  · exact ⟨_, .refused hanswer⟩
  -- bytes are those of some text or of none; off a text the blanks at its end are taken
  by_cases htext : ∃ text, bytes = toUtf8 text
  · obtain ⟨text, rfl⟩ := htext
    obtain ⟨space, hspace, hsplit⟩ := exists_eq_trimEnd_append text
    rw [hsplit] at hanswer
    exact ⟨_, .listing hanswer hspace fun c hc => isBlank_of_mem_getLast?_trimEnd hc⟩
  · exact ⟨_, .notText hanswer fun text heq => htext ⟨text, heq⟩⟩

/-- **A run reads the listing of its source and nothing else**: `Supplied` says what `sourceIn`
reads. -/
theorem supplied_iff :
    Supplied standardInput files source result ↔ sourceIn standardInput source files = result := by
  constructor
  · exact Supplied.sourceIn_eq
  · rintro rfl
    obtain ⟨result, h⟩ := exists_supplied standardInput files source
    rw [h.sourceIn_eq]
    exact h

end RomCompiler.CommandLine
