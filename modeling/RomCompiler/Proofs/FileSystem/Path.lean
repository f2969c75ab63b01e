import RomCompiler.Proofs.FileSystem.Directories
import RomCompiler.Proofs.Text.Trim

/-! # The directory of a path

The directory of a path is read off its text and rid of segments that lead nowhere, while the path
itself is followed name by name. For a path that ends in an ordinary name both come to the same
place: the one from which this name is followed.
* **`Path.lastSegment`** — what comes after the last slash; **`Path.segments_eq_concat`** — it is
  the last segment.
* **`Path.parent?_isPrefix`** — the path of the directory above is the beginning of a path.
* **`Path.directory_cases`** — the directory of an ordinary name, alone and after a slash.
* **`Path.moves`** — the names that lead away; **`Path.moves_eq_concat`** — the last one is made in
  the directory.
* **`Tree.directoryAt_filter_self`** — no other names matter to where a directory is.
* **`FileSystem.directoryAt_directory`** — the directory of a path is where all its names but the
  last lead. -/

namespace RomCompiler

namespace Path

variable {path front back : Text}

/-! ## The last segment -/

/-- `lastSegment path`: the text after the last slash of a path, or the whole path if it has none.
-/
def lastSegment (path : Text) : Text := path.rtakeWhile (· != '/')

/-- `'/' ∉ lastSegment path`: there is no slash after the last one. -/
theorem slash_notMem_lastSegment (path : Text) : '/' ∉ lastSegment path := by
  intro h
  have hne := List.mem_rtakeWhile_imp h
  exact absurd hne (by decide)

/-- `lastSegment path = path`: a path without slashes is its own last segment. -/
theorem lastSegment_eq_self (h : '/' ∉ path) : lastSegment path = path := by
  rw [lastSegment, List.rtakeWhile_eq_self_iff]
  intro c hc
  simpa using ne_of_mem_of_not_mem hc h

/-- `∃ front, path = front ++ '/' :: lastSegment path`: a path with a slash has its last segment
after one. -/
theorem exists_eq_append_lastSegment (h : '/' ∈ path) :
    ∃ front, path = front ++ '/' :: lastSegment path := by
  have hne : path.rdropWhile (· != '/') ≠ [] := by
    intro hnil
    have hall := List.rdropWhile_eq_nil_iff.mp hnil '/' h
    exact absurd hall (by decide)
  have hlast := List.rdropWhile_last_not _ path hne
  have hslash : (path.rdropWhile (· != '/')).getLast hne = '/' := by simpa using hlast
  have hfront := List.dropLast_append_getLast hne
  rw [hslash] at hfront
  refine ⟨(path.rdropWhile (· != '/')).dropLast, ?_⟩
  calc
    path = path.rdropWhile (· != '/') ++ lastSegment path :=
      List.rdropWhile_append_rtakeWhile.symm
    _ = (path.rdropWhile (· != '/')).dropLast ++ '/' :: lastSegment path := by
      rw [List.append_cons, hfront]

/-- `lastSegment path = [] ↔ path = [] ∨ endsInSlash path = true`: nothing comes after the last
slash of a path that ends in one, or that is empty. -/
theorem lastSegment_eq_nil_iff : lastSegment path = [] ↔ path = [] ∨ endsInSlash path = true := by
  rw [lastSegment, List.rtakeWhile_eq_nil_iff, endsInSlash]
  by_cases hnil : path = []
  · simp [hnil]
  · simp [hnil, List.getLast?_eq_some_getLast hnil]

/-! ## Segments and names -/

/-- Slashes cut a path wherever they are. -/
theorem segments_append (front back : Text) :
    segments (front ++ '/' :: back) = segments front ++ segments back :=
  List.splitOn_append_cons_self front back

/-- `segments path = [path]`: a path without slashes is one segment. -/
theorem segments_of_notMem (h : '/' ∉ path) : segments path = [path] :=
  List.splitOn_eq_singleton h

/-- No segment has a slash. -/
theorem slash_notMem_of_mem_segments {segment : Text} (h : segment ∈ segments path) :
    '/' ∉ segment := by
  induction path generalizing segment with
  | nil =>
    rw [List.mem_singleton.mp h]
    exact List.not_mem_nil
  | cons c path ih =>
    obtain ⟨first, rest, hsegments⟩ := List.exists_cons_of_ne_nil (List.splitOn_ne_nil '/' path)
    rw [segments, hsegments] at ih
    rw [segments, List.splitOn_cons_eq_if_modifyHead, hsegments] at h
    by_cases hc : c = '/'
    · rw [if_pos (by simpa using hc)] at h
      rcases List.mem_cons.mp h with rfl | h
      · exact List.not_mem_nil
      · exact ih h
    · rw [if_neg (by simpa using hc), List.modifyHead_cons] at h
      rcases List.mem_cons.mp h with rfl | h
      · exact List.not_mem_cons_of_ne_of_not_mem (Ne.symm hc) (ih List.mem_cons_self)
      · exact ih (List.mem_cons_of_mem first h)

/-- **The last segment of a path comes after the others**:
`segments path = (segments path).dropLast ++ [lastSegment path]`. -/
theorem segments_eq_concat (path : Text) :
    segments path = (segments path).dropLast ++ [lastSegment path] := by
  by_cases hslash : '/' ∈ path
  · obtain ⟨front, hpath⟩ := exists_eq_append_lastSegment hslash
    have hsegments : segments path = segments front ++ [lastSegment path] := by
      rw [← segments_of_notMem (slash_notMem_lastSegment path), ← segments_append, ← hpath]
    rw [hsegments, List.dropLast_concat]
  · rw [segments_of_notMem hslash, lastSegment_eq_self hslash]
    rfl

/-- `names path = (names path).dropLast ++ [lastSegment path]`: the last segment is the last name,
if it is one. -/
theorem names_eq_concat (h : lastSegment path ≠ []) :
    names path = (names path).dropLast ++ [lastSegment path] := by
  have hnames : names path =
      (segments path).dropLast.filter (!·.isEmpty) ++ [lastSegment path] := by
    rw [names, segments_eq_concat path, List.filter_append, List.dropLast_concat,
      List.filter_cons_of_pos (by simpa using h), List.filter_nil]
  rw [hnames, List.dropLast_concat]

/-- The names of a path that is put together from segments are those of the segments. -/
theorem names_ofSegments {first : Text} {rest : List Text}
    (h : ∀ segment ∈ first :: rest, '/' ∉ segment) :
    names (ofSegments (first :: rest)) = (first :: rest).filter (!·.isEmpty) := by
  unfold ofSegments
  split
  · next heq =>
    rw [heq]
    rfl
  · rw [names, segments, List.splitOn_intercalate '/' h (List.cons_ne_nil first rest)]

/-! ## The directory above -/

/-- Texts with a separator between them are the first one, and each of the others after a
separator. -/
theorem intercalate_cons {α : Type} (separator first : List α) (rest : List (List α)) :
    separator.intercalate (first :: rest) = first ++ rest.flatMap (separator ++ ·) := by
  induction rest generalizing first with
  | nil => rw [List.intercalate_singleton, List.flatMap_nil, List.append_nil]
  | cons next rest ih =>
    rw [List.intercalate_cons_cons, ih, List.flatMap_cons, List.append_assoc, List.append_assoc]

/-- `ofSegments (first :: kept) <+: path`: the first segments of a path, put together, are the
beginning of the path. -/
theorem ofSegments_isPrefix {first : Text} {kept others : List Text} (hne : others ≠ [])
    (h : segments path = first :: (kept ++ others)) : ofSegments (first :: kept) <+: path := by
  have hpath : path = first ++ (kept.flatMap (['/'] ++ ·) ++ others.flatMap (['/'] ++ ·)) := by
    rw [← List.flatMap_append, ← intercalate_cons, ← h]
    exact (List.intercalate_splitOn '/').symm
  unfold ofSegments
  split
  · next heq =>
    -- what is before the first slash is empty, so the path opens with it
    obtain ⟨rfl, rfl⟩ := List.cons.inj heq
    obtain ⟨next, others, rfl⟩ := List.exists_cons_of_ne_nil hne
    rw [hpath]
    exact ⟨_, rfl⟩
  · rw [hpath, intercalate_cons, ← List.append_assoc]
    exact List.prefix_append _ _

/-- **The path of the directory above is the beginning of a path**: `above <+: path`. -/
theorem parent?_isPrefix {above : Text} (h : parent? path = some above) : above <+: path := by
  unfold parent? at h
  split at h
  · exact absurd h (by simp)
  · next first rest hsegments =>
    split at h
    · split at h
      · exact absurd h (by simp)
      · rw [← Option.some.inj h]
        exact List.nil_prefix
    · next inner hinner =>
      rw [← Option.some.inj h]
      obtain ⟨after, hafter⟩ := dropEndWhile_isPrefix isVoid rest
      obtain ⟨middle, hmiddle⟩ := dropEndWhile_isPrefix isVoid (dropEndWhile isVoid rest).dropLast
      have hlast := List.dropLast_append_getLast hinner
      refine ofSegments_isPrefix
        (List.append_ne_nil_of_left_ne_nil (List.append_ne_nil_of_right_ne_nil middle
          (List.cons_ne_nil ((dropEndWhile isVoid rest).getLast hinner) [])) after) ?_
      rw [hsegments, ← List.append_assoc, ← List.append_assoc, hmiddle, hlast, hafter]

/-- `ofSegments (first :: rest) ≠ []`: what is put together from segments is not empty. -/
theorem ofSegments_ne_nil (first : Text) (rest : List Text) : ofSegments (first :: rest) ≠ [] := by
  unfold ofSegments
  split
  · exact List.cons_ne_nil '/' []
  · next hnot =>
    rw [intercalate_cons]
    rcases rest with _ | ⟨next, rest⟩
    · rw [List.flatMap_nil, List.append_nil]
      rintro rfl
      exact hnot rfl
    · exact List.append_ne_nil_of_right_ne_nil first (List.cons_ne_nil '/' _)

/-- `directory path ≠ []`: a path has a directory. -/
theorem directory_ne_nil (path : Text) : directory path ≠ [] := by
  unfold directory
  split
  · decide
  · decide
  · next hne _ => exact fun hnil => hne hnil

/-- `directory path = self ∨ directory path <+: path`: the directory of a path is the directory
itself or the beginning of the path. -/
theorem directory_eq_self_or_isPrefix (path : Text) :
    directory path = self ∨ directory path <+: path := by
  unfold directory
  split
  · exact Or.inl rfl
  · exact Or.inl rfl
  · next hparent => exact Or.inr (parent?_isPrefix hparent)

/-- `directory path = self`: the directory of a name alone is the one from which it is followed. -/
theorem directory_of_segments_eq_singleton {name : Text} (h : segments path = [name]) :
    directory path = self := by
  have hparent : parent? path = none ∨ parent? path = some [] := by
    unfold parent?
    rw [h]
    by_cases hempty : name.isEmpty = true
    · exact Or.inl (if_pos hempty)
    · exact Or.inr (if_neg hempty)
  rcases hparent with hparent | hparent <;> rw [directory, hparent]

/-- Above an ordinary name after a slash are the segments before it, without those at their end that
lead nowhere else. -/
theorem parent?_of_segments_eq {first last : Text} {rest : List Text}
    (h : segments path = first :: (rest ++ [last])) (hlast : isVoid last = false) :
    parent? path = some (ofSegments (first :: dropEndWhile isVoid rest)) := by
  have hkept : dropEndWhile isVoid (rest ++ [last]) = rest ++ [last] := by
    rw [dropEndWhile_eq_rdropWhile, List.rdropWhile_concat_neg _ _ _ (by simp [hlast])]
  unfold parent?
  rw [h]
  dsimp only
  rw [hkept]
  split
  · next hnil => exact absurd hnil (List.append_ne_nil_of_right_ne_nil rest (by simp))
  · rw [List.dropLast_concat]

/-- **An ordinary name is one segment alone, which is followed from the directory itself, or it has
its directory in front.** -/
theorem directory_cases (h : isVoid (lastSegment path) = false) :
    (segments path = [lastSegment path] ∧ directory path = self) ∨
    ∃ first rest, segments path = first :: (rest ++ [lastSegment path]) ∧
      directory path = ofSegments (first :: dropEndWhile isVoid rest) ∧
      directory path <+: path := by
  rcases hfront : (segments path).dropLast with _ | ⟨first, rest⟩
  · have hsegments : segments path = [lastSegment path] := by
      rw [segments_eq_concat, hfront, List.nil_append]
    exact Or.inl ⟨hsegments, directory_of_segments_eq_singleton hsegments⟩
  · have hsegments : segments path = first :: (rest ++ [lastSegment path]) := by
      rw [segments_eq_concat, hfront, List.cons_append]
    have hparent := parent?_of_segments_eq hsegments h
    have hdirectory : directory path = ofSegments (first :: dropEndWhile isVoid rest) := by
      unfold directory
      rw [hparent]
      split
      · next hnone => exact absurd hnone (by simp)
      · next hnil => exact absurd (Option.some.inj hnil) (ofSegments_ne_nil _ _)
      · next hsome => exact (Option.some.inj hsome).symm
    refine Or.inr ⟨first, rest, hsegments, hdirectory, ?_⟩
    rw [hdirectory]
    exact parent?_isPrefix hparent

/-- `isAbsolute (directory path) = isAbsolute path`: a name and its directory are followed from the
same place. -/
theorem isAbsolute_directory (h : isVoid (lastSegment path) = false) :
    isAbsolute (directory path) = isAbsolute path := by
  rcases directory_cases h with ⟨hsegments, hdirectory⟩ | ⟨-, -, -, -, back, hback⟩
  · have hpath : path = lastSegment path := by
      calc
        path = ['/'].intercalate (segments path) := (List.intercalate_splitOn '/').symm
        _ = lastSegment path := by rw [hsegments, List.intercalate_singleton]
    have hrelative : isAbsolute path = false := by
      rcases habsolute : isAbsolute path with _ | _
      · rfl
      · have hslash : '/' ∈ path := List.mem_of_mem_head? (by simpa [isAbsolute] using habsolute)
        rw [hpath] at hslash
        exact absurd hslash (slash_notMem_lastSegment path)
    rw [hdirectory, hrelative]
    rfl
  · have hhead : path.head? = (directory path).head? := by
      conv_lhs => rw [← hback]
      exact List.head?_append_of_ne_nil _ (directory_ne_nil path)
    rw [isAbsolute, isAbsolute, hhead]

/-! ## Moves -/

/-- `moves path`: the names in a path that lead away from where they are followed. -/
def moves (path : Text) : List Text := (names path).filter (· != self)

/-- The names among some segments that lead away are the segments that lead somewhere else. -/
theorem filter_names (segments : List Text) :
    (segments.filter (!·.isEmpty)).filter (· != self) = segments.filter (!isVoid ·) := by
  rw [List.filter_filter]
  refine List.filter_congr fun segment _ => ?_
  rw [isVoid, Bool.not_or, Bool.and_comm]
  rfl

/-- **The last move of a path is made in its directory**:
`moves path = moves (directory path) ++ [lastSegment path]`. -/
theorem moves_eq_concat (h : isVoid (lastSegment path) = false) :
    moves path = moves (directory path) ++ [lastSegment path] := by
  have hlast : [lastSegment path].filter (!isVoid ·) = [lastSegment path] := by
    rw [List.filter_cons_of_pos (by simp [h]), List.filter_nil]
  rcases directory_cases h with ⟨hsegments, hdirectory⟩ | ⟨first, rest, hsegments, hdirectory, -⟩
  · rw [moves, names, filter_names, hsegments, hdirectory, hlast]
    rfl
  · have hslash : ∀ segment ∈ first :: dropEndWhile isVoid rest, '/' ∉ segment := by
      intro segment hsegment
      apply @slash_notMem_of_mem_segments path
      rw [hsegments]
      rcases List.mem_cons.mp hsegment with rfl | hkept
      · exact List.mem_cons_self
      · have hrest := (dropEndWhile_isPrefix isVoid rest).mem hkept
        exact List.mem_cons_of_mem first (List.mem_append_left _ hrest)
    rw [moves, names, filter_names, moves, hdirectory, names_ofSegments hslash, filter_names,
      hsegments, ← List.cons_append, List.filter_append, hlast, List.filter_cons, List.filter_cons,
      filter_dropEndWhile]

end Path

/-! ## The way to the directory -/

namespace Tree

variable {tree : Tree}

/-- A directory is reached by the first name and then the others. -/
theorem directoryAt_cons (start : Location) (name : Text) (rest : List Text) :
    tree.directoryAt start (name :: rest) =
      tree.enter start name >>= fun next => tree.directoryAt next rest := by
  rw [directoryAt, walk]
  rcases tree.enter start name with refusal | next <;> rfl

/-- It makes no difference to go to the directory itself first. -/
theorem directoryAt_self_cons (start : Location) (rest : List Text) :
    tree.directoryAt start (Path.self :: rest) = tree.directoryAt start rest := by
  rcases hstart : tree.isDirectory start with _ | _
  · -- from something that is not a directory, nothing is reached with the name or without it
    have hrefused (name : Text) : tree.enter start name = .error .notDirectory := by
      rw [enter, hstart]
      rfl
    rw [directoryAt_cons, hrefused]
    rcases rest with _ | ⟨name, rest⟩
    · rw [directoryAt, walk]
      simp [bind, Except.bind, hstart]
    · rw [directoryAt_cons, hrefused]
      rfl
  · have hself : tree.enter start Path.self = .ok start := by
      rw [enter, hstart]
      rfl
    rw [directoryAt_cons, hself]
    rfl

/-- **A directory is reached by the names that lead away from where they are followed.** -/
theorem directoryAt_filter_self (start : Location) (names : List Text) :
    tree.directoryAt start (names.filter (· != Path.self)) = tree.directoryAt start names := by
  induction names generalizing start with
  | nil => rfl
  | cons name rest ih =>
    by_cases hself : name = Path.self
    · rw [List.filter_cons_of_neg (by simp [hself]), ih, hself, directoryAt_self_cons]
    · rw [List.filter_cons_of_pos (by simpa using hself), directoryAt_cons, directoryAt_cons]
      rcases tree.enter start name with refusal | next
      · rfl
      · exact ih next

end Tree

/-- **The directory of a path that ends in an ordinary name is where its names before this one
lead.** -/
theorem FileSystem.directoryAt_directory {files : FileSystem} {path : Text}
    (h : Path.isVoid (Path.lastSegment path) = false) :
    files.tree.directoryAt (files.start (Path.directory path)) (Path.names (Path.directory path)) =
      files.tree.directoryAt (files.start path) (Path.names path).dropLast := by
  have hne : Path.lastSegment path ≠ [] := by
    intro hnil
    rw [hnil] at h
    exact absurd h (by decide)
  have hself : Path.lastSegment path ≠ Path.self := by
    intro hself
    rw [hself] at h
    exact absurd h (by decide)
  have hmoves : (Path.names path).dropLast.filter (· != Path.self) =
      Path.moves (Path.directory path) := by
    have hconcat := Path.moves_eq_concat h
    rw [Path.moves, Path.names_eq_concat hne, List.filter_append,
      List.filter_cons_of_pos (by simpa using hself), List.filter_nil] at hconcat
    exact List.append_cancel_right hconcat
  rw [start, start, Path.isAbsolute_directory h, ← Tree.directoryAt_filter_self,
    ← Tree.directoryAt_filter_self _ (Path.names path).dropLast, hmoves, Path.moves]

end RomCompiler
