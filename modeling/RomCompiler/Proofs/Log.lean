import RomCompiler.Proofs.Image.Build
import RomCompiler.Proofs.Job
import RomCompiler.Proofs.Listing.Trace

/-! # The log of a compilation tells how far it got

Which records a run writes, and the numbers in them, can be told from the results of its stages and
from nothing else: each stage has its records, up to the point at which it ends.
* **`Record.exists_lineNumber_eq`** — the numbers of lines stand below each other.
* **`Record.Reads`**, **`Record.reads_render`** — the level and the text of every record.
* **`listingRecords`**, **`imageRecords`**, **`saveRecords`** — the records of each stage, told from
  its result.
* **`log_code`**, **`Image.log_build`**, **`log_save`** — each stage has these records;
  **`log_compile`**, **`log_produce`** — and a run has those of its stages, one after the other.
* **`log_produce_eq`** — all of this about one run, with the numbers that agree with its results. -/

namespace RomCompiler

variable {allocator : Allocator} {markers : Listing.Markers} {source : Option Text} {size : Nat}
  {path : Text} {image : Image} {files : FileSystem}

/-! ## The numbers of lines -/

/-- `(Nat.toDigits base m).length ≤ (Nat.toDigits base n).length`: a smaller number has no more
digits than a larger one. -/
theorem length_toDigits_mono {base m n : Nat} (hbase : 1 < base) (h : m ≤ n) :
    (Nat.toDigits base m).length ≤ (Nat.toDigits base n).length := by
  have hlt : n < base ^ (Nat.toDigits base n).length :=
    (Nat.length_toDigits_le_iff hbase Nat.length_toDigits_pos).mp (Nat.le_refl _)
  exact (Nat.length_toDigits_le_iff hbase Nat.length_toDigits_pos).mpr (Nat.lt_of_le_of_lt h hlt)

/-- The number of one of `total` lines has blanks in front of it, as many as make it as wide as the
total. -/
theorem Record.exists_lineNumber_eq {number total : Nat} (h : number ≤ total) :
    ∃ blanks, Record.lineNumber number total =
        String.ofList (List.replicate blanks ' ') ++ decimal number ∧
      (Record.lineNumber number total).length = (decimal total).length := by
  refine ⟨(Nat.toDigits 10 total).length - (Nat.toDigits 10 number).length, ?_, ?_⟩
  · rw [Record.lineNumber, List.leftpad, String.ofList_append]
    rfl
  · rw [Record.lineNumber, decimal, String.length_ofList, String.length_ofList,
      List.length_leftpad, Nat.max_eq_left (length_toDigits_mono (by decide) h)]

/-! ## Records as they are written -/

/-- **A record as it is written**: `record.Reads level line` for a record of this level, which is
told in this line. The line opens with the name of the level. -/
inductive Record.Reads : Record → Level → String → Prop
  /-- The number stands on the right of a column that is as wide as the total. -/
  | compilingLine {number total blanks : Nat}
      (h : blanks + (decimal number).length = (decimal total).length) (text : Text) :
      Reads (.compilingLine number total text) .trace
        ("TRACE compiling line " ++ String.ofList (List.replicate blanks ' ') ++ decimal number ++
          ": " ++ String.ofList text)
  /-- The count is in decimal. -/
  | parsed (count : Nat) :
      Reads (.parsed count) .debug ("DEBUG parsed " ++ decimal count ++ " bytes")
  /-- Both numbers are in hexadecimal. -/
  | building (size codeLength : Nat) :
      Reads (.building size codeLength) .debug
        ("DEBUG building 0x" ++ hexadecimal size ++ " byte ROM from 0x" ++
          hexadecimal codeLength ++ " bytes of code")
  /-- Both ends of the range are in hexadecimal. -/
  | vectorCovered (first last : Nat) :
      Reads (.vectorCovered first last) .warn
        ("WARN code runs into the reset vector at 0x" ++ hexadecimal first ++ "..0x" ++
          hexadecimal last ++ ", it will be overwritten")
  /-- The path is as it was given. -/
  | saving (path : Text) :
      Reads (.saving path) .info
        ("INFO saving byte code to ROM inside the " ++ String.ofList path ++ " file")
  /-- The length is in hexadecimal. -/
  | writing (length : Nat) (path : Text) :
      Reads (.writing length path) .debug
        ("DEBUG writing 0x" ++ hexadecimal length ++ " bytes to " ++ String.ofList path)

/-- **Every record is written as `Record.Reads` says**, with the level that it has: a record about
one of `total` lines if its number is one of theirs, and any other record whatever it tells. -/
theorem Record.reads_render (record : Record)
    (h : ∀ number total text, record = .compilingLine number total text → number ≤ total) :
    record.Reads record.level record.render := by
  -- one case for each kind of record: its level and its opening words are written out
  cases record with
  | compilingLine number total text =>
    obtain ⟨blanks, hnumber, hwidth⟩ := exists_lineNumber_eq (h _ _ _ rfl)
    rw [hnumber, String.length_append, String.length_ofList, List.length_replicate] at hwidth
    have hopening : "TRACE compiling line " = "TRACE" ++ " " ++ "compiling line " := rfl
    have hrender : (compilingLine number total text).render = "TRACE compiling line " ++
        String.ofList (List.replicate blanks ' ') ++ decimal number ++ ": " ++
          String.ofList text := by
      show "TRACE" ++ " " ++
        ("compiling line " ++ lineNumber number total ++ ": " ++ String.ofList text) = _
      simp only [hopening, hnumber, String.append_assoc]
    rw [hrender]
    exact .compilingLine hwidth text
  | parsed count =>
    have hopening : "DEBUG parsed " = "DEBUG" ++ " " ++ "parsed " := rfl
    have hrender : (parsed count).render = "DEBUG parsed " ++ decimal count ++ " bytes" := by
      show "DEBUG" ++ " " ++ ("parsed " ++ decimal count ++ " bytes") = _
      simp only [hopening, String.append_assoc]
    rw [hrender]
    exact .parsed count
  | building size codeLength =>
    have hopening : "DEBUG building 0x" = "DEBUG" ++ " " ++ "building " ++ "0x" := rfl
    have hrom : " byte ROM from 0x" = " byte ROM from " ++ "0x" := rfl
    have hrender : (building size codeLength).render = "DEBUG building 0x" ++ hexadecimal size ++
        " byte ROM from 0x" ++ hexadecimal codeLength ++ " bytes of code" := by
      show "DEBUG" ++ " " ++ ("building " ++ ("0x" ++ hexadecimal size) ++ " byte ROM from " ++
        ("0x" ++ hexadecimal codeLength) ++ " bytes of code") = _
      simp only [hopening, hrom, String.append_assoc]
    rw [hrender]
    exact .building size codeLength
  | vectorCovered first last =>
    have hopening : "WARN code runs into the reset vector at 0x" =
        "WARN" ++ " " ++ "code runs into the reset vector at " ++ "0x" := rfl
    have hrange : "..0x" = ".." ++ "0x" := rfl
    have hrender : (vectorCovered first last).render =
        "WARN code runs into the reset vector at 0x" ++ hexadecimal first ++ "..0x" ++
          hexadecimal last ++ ", it will be overwritten" := by
      show "WARN" ++ " " ++ ("code runs into the reset vector at " ++
        ("0x" ++ hexadecimal first) ++ ".." ++ ("0x" ++ hexadecimal last) ++
        ", it will be overwritten") = _
      simp only [hopening, hrange, String.append_assoc]
    rw [hrender]
    exact .vectorCovered first last
  | saving path =>
    have hopening : "INFO saving byte code to ROM inside the " =
        "INFO" ++ " " ++ "saving byte code to ROM inside the " := rfl
    have hrender : (saving path).render =
        "INFO saving byte code to ROM inside the " ++ String.ofList path ++ " file" := by
      show "INFO" ++ " " ++
        ("saving byte code to ROM inside the " ++ String.ofList path ++ " file") = _
      simp only [hopening, String.append_assoc]
    rw [hrender]
    exact .saving path
  | writing length path =>
    have hopening : "DEBUG writing 0x" = "DEBUG" ++ " " ++ "writing " ++ "0x" := rfl
    have hrender : (writing length path).render = "DEBUG writing 0x" ++ hexadecimal length ++
        " bytes to " ++ String.ofList path := by
      show "DEBUG" ++ " " ++ ("writing " ++ ("0x" ++ hexadecimal length) ++ " bytes to " ++
        String.ofList path) = _
      simp only [hopening, String.append_assoc]
    rw [hrender]
    exact .writing length path

/-! ## The records of the stages -/

/-- **The records about a listing**, told from what it was `decoded` to: one for each line up to
that of a fault, or for all of them and then for their bytes. -/
def listingRecords (source : Option Text) (decoded : Except Listing.Fault Bytes) : List Record :=
  match source, decoded with
  | none, _ => []
  | some text, .error fault => Listing.lineRecords text fault.line
  | some text, .ok code =>
    Listing.lineRecords text (Listing.lines text).length ++ [.parsed code.length]

/-- **The records about an image**, told from what its listing was `decoded` to and from what
compiling it ended with: the image is told once it has room for everything, and with memory for it
also that the reset vector covers some of the code. -/
def imageRecords (size : Nat) (decoded : Except Listing.Fault Bytes)
    (compiled : Except Compilation.Fault Image) : List Record :=
  match decoded, compiled with
  | .ok code, .ok image => .building size code.length ::
      if Image.resetVector < image.codeLength then
        [.vectorCovered Image.resetVector Image.resetVectorEnd]
      else []
  | .ok code, .error (.image (.noMemory _)) => [.building size code.length]
  | _, _ => []

/-- **The records about a save**, told from what compiling ended with and from the temporary file
that was `created`: an image is told with its path, and the temporary file once it is there. -/
def saveRecords (path : Text) (compiled : Except Compilation.Fault Image)
    (created : Except NotCreated FileSystem.Temporary) : List Record :=
  match compiled, created with
  | .ok image, .ok temporary => [.saving path, .writing image.size temporary.path]
  | .ok _, .error _ => [.saving path]
  | .error _, _ => []

/-! ## Each stage has its records -/

/-- **The records of a listing are told from what it was decoded to.** -/
theorem log_code (markers : Listing.Markers) (source : Option Text) :
    (Compilation.code markers source).log =
      listingRecords source (Compilation.code markers source).outcome := by
  rcases source with _ | text
  · rfl
  · rw [Compilation.code]
    rcases hparse : (Listing.parse markers text).outcome with fault | code
    · exact (Listing.log_parse_of_error hparse).1
    · exact Listing.log_parse_of_ok hparse

/-- **The records of an image are told from what building it ended with.** -/
theorem Image.log_build (allocator : Allocator) (code : Bytes) (size : Nat) :
    (Image.build allocator code size).log =
      imageRecords size (.ok code) ((Image.build allocator code size).outcome.mapError .image) := by
  by_cases hcode : size < code.length
  · rw [Image.build_of_lt_length allocator hcode]
    rfl
  have hcode' : code.length ≤ size := Nat.le_of_not_lt hcode
  by_cases hsize : size < Image.minimumSize
  · rw [Image.build_of_lt_minimumSize allocator hcode' hsize]
    rfl
  have hsize' : Image.minimumSize ≤ size := Nat.le_of_not_lt hsize
  rcases hgrants : allocator.grants size with _ | _
  · rw [Image.build_of_not_grants hcode' hsize' hgrants]
    rfl
  · -- the reset vector has its place, so the fault that is looked for last does not come up
    obtain ⟨bytes, hbytes⟩ := Image.exists_put?_padded hcode' hsize'
    rw [Image.build_eq_of_grants hcode' hsize' hgrants hbytes]
    rfl

/-- **A compilation has the records of its listing and those of its image.** -/
theorem log_compile (allocator : Allocator) (markers : Listing.Markers) (source : Option Text)
    (size : Nat) :
    (compile allocator markers source size).log =
      listingRecords source (Compilation.code markers source).outcome ++
        imageRecords size (Compilation.code markers source).outcome
          (compile allocator markers source size).outcome := by
  rw [← log_code]
  -- without code there is no image to be told
  rcases hcode : Compilation.code markers source with ⟨log, fault | code⟩
  · rw [compile, hcode]
    show log = log ++ []
    rw [List.append_nil]
  · rw [compile, hcode]
    show log ++ (Image.build allocator code size).log = log ++ _
    rw [Image.log_build]
    rfl

/-- **The records of a save are told from the temporary file.** -/
theorem log_save (image : Image) (path : Text) (files : FileSystem) :
    ((save image path : StateM FileSystem _).run files).1.log =
      saveRecords path (.ok image) (files.createTemporary (Path.directory path)).1 := by
  rcases hcreate : files.createTemporary (Path.directory path) with ⟨failure | temporary, after⟩
  · have hrun : (FileAccess.createTemporary (Path.directory path) : StateM FileSystem _).run files =
        (.error failure, after) := hcreate
    rw [save, run_bind_of_run hrun]
    rfl
  · have hrun : (FileAccess.createTemporary (Path.directory path) : StateM FileSystem _).run files =
        (.ok temporary, after) := hcreate
    rw [save, run_bind_of_run hrun]
    rfl

/-- **A run has the records of its compilation, and then those of a save if there is an image.** -/
theorem log_produce (allocator : Allocator) (markers : Listing.Markers) (source : Option Text)
    (size : Nat) (path : Text) (files : FileSystem) :
    ((produce allocator markers source size path : StateM FileSystem _).run files).1.log =
      (compile allocator markers source size).log ++
        saveRecords path (compile allocator markers source size).outcome
          (files.createTemporary (Path.directory path)).1 := by
  rcases hcompile : (compile allocator markers source size).outcome with fault | image
  · -- nothing is saved, so there are no records of a save
    rw [run_produce_of_error hcompile]
    show _ = _ ++ []
    rw [List.append_nil]
  · rcases hsave : (save image path : StateM FileSystem _).run files with ⟨saved, after⟩
    rw [run_produce_of_ok hcompile hsave, ← log_save, hsave]

/-! ## The numbers in the records -/

/-- `number ≤ total`: the number of a line is at most that of all lines. -/
theorem le_of_compilingLine_mem {decoded : Except Listing.Fault Bytes}
    {compiled : Except Compilation.Fault Image} {created : Except NotCreated FileSystem.Temporary}
    {number total : Nat} {line : Text}
    (h : .compilingLine number total line ∈ listingRecords source decoded ++
      imageRecords size decoded compiled ++ saveRecords path compiled created) :
    number ≤ total := by
  rw [List.mem_append, List.mem_append] at h
  -- only the records of the listing are about lines
  rcases h with (hlisting | himage) | hsave
  · unfold listingRecords at hlisting
    split at hlisting
    · exact absurd hlisting (by simp)
    · exact (Listing.of_compilingLine_mem_lineRecords hlisting).2
    · rw [List.mem_append] at hlisting
      rcases hlisting with hlines | hparsed
      · exact (Listing.of_compilingLine_mem_lineRecords hlines).2
      · exact absurd hparsed (by simp)
  · unfold imageRecords at himage
    split at himage
    · split at himage
      · exact absurd himage (by simp)
      · exact absurd himage (by simp)
    · exact absurd himage (by simp)
    · exact absurd himage (by simp)
  · unfold saveRecords at hsave
    split at hsave
    · exact absurd hsave (by simp)
    · exact absurd hsave (by simp)
    · exact absurd hsave (by simp)

/-- **The log tells how far a run got.** Its records are `listingRecords`, `imageRecords` and
`saveRecords`, those of the listing, of the image and of the save, and each stage has them up to the
point at which it ended. After a fault of the listing nothing follows the record of its line, in
which the token stands before the comment. Every record has the level and the text that
`Record.Reads` gives it. All numbers agree with the results: those of lines stand below each other,
and an image has the size and the code that were told. -/
theorem log_produce_eq (allocator : Allocator) (markers : Listing.Markers) (source : Option Text)
    (size : Nat) (path : Text) (files : FileSystem) :
    let decoded := (Compilation.code markers source).outcome
    let compiled := (compile allocator markers source size).outcome
    let created := (files.createTemporary (Path.directory path)).1
    let answer := ((produce allocator markers source size path : StateM FileSystem _).run files).1
    answer.log = listingRecords source decoded ++ imageRecords size decoded compiled ++
      saveRecords path compiled created ∧
    (∀ text fault, source = some text → decoded = .error fault →
      answer.outcome = .error (.compilation (.listing fault)) ∧
      ∃ line, answer.log.getLast? =
          some (.compilingLine fault.line (Listing.lines text).length line) ∧
        fault.token <:+: Listing.uncommented markers line) ∧
    (∀ number total line, .compilingLine number total line ∈ answer.log →
      ∃ blanks, Record.lineNumber number total =
          String.ofList (List.replicate blanks ' ') ++ decimal number ∧
        (Record.lineNumber number total).length = (decimal total).length) ∧
    (∀ record ∈ answer.log, record.Reads record.level record.render) ∧
    (∀ fault, compiled = .error fault → answer.outcome = .error (.compilation fault)) ∧
    ∀ image, compiled = .ok image → image.size = size ∧
      ∃ code, decoded = .ok code ∧ image.codeLength = code.length := by
  intro decoded compiled created answer
  have hlog : answer.log = listingRecords source decoded ++ imageRecords size decoded compiled ++
      saveRecords path compiled created := by
    rw [← log_compile, ← log_produce]
  have hfailed : ∀ fault, compiled = .error fault →
      answer.outcome = .error (.compilation fault) := by
    intro fault hcompiled
    show ((produce allocator markers source size path :
      StateM FileSystem _).run files).1.outcome = _
    rw [run_produce_of_error hcompiled]
  refine ⟨hlog, ?_, ?_, ?_, hfailed, ?_⟩
  · intro text fault hsource hdecoded
    have hcompiled : compiled = .error (.listing fault) :=
      outcome_compile_of_listing_error hdecoded allocator size
    obtain rfl := hsource
    have hlines : answer.log = (Listing.parse markers text).log := by
      rw [hlog, hcompiled, hdecoded, (Listing.log_parse_of_error hdecoded).1]
      show (_ ++ []) ++ [] = _
      rw [List.append_nil, List.append_nil]
      rfl
    rw [hlines]
    exact ⟨hfailed _ hcompiled, (Listing.log_parse_of_error hdecoded).2⟩
  · intro number total line hmem
    rw [hlog] at hmem
    exact Record.exists_lineNumber_eq (le_of_compilingLine_mem hmem)
  · intro record hmem
    rw [hlog] at hmem
    apply Record.reads_render
    rintro number total text rfl
    exact le_of_compilingLine_mem hmem
  · intro image hcompiled
    obtain ⟨code, hdecoded, hbuilt⟩ := outcome_compile_eq_ok_iff.mp hcompiled
    exact ⟨Image.length_bytes_of_build hbuilt, code, hdecoded,
      (Image.build_eq_ok_iff.mp hbuilt).2.2.2.2⟩

-- the line after the fault is not told, and no image is
example (files : FileSystem) :
    ((produce .addressSpace default (some ['1', '\n', 'z', ';', 'z', '\n', '2']) 0x8000 ['o'] :
      StateM FileSystem _).run files).1.log =
      [.compilingLine 1 3 ['1'], .compilingLine 2 3 ['z', ';', 'z']] := by
  rfl

end RomCompiler
