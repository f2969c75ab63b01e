import RomCompiler.FileSystem.Tree

/-! # Files that come and go

A file does not get in the way: what leads to a directory passes through directories only, so it
leads there with the file and without it. A file that is made at an unused location and erased again
gives the tree back as it was.
* **`Tree.Unused`** — no entry has a location; **`Tree.unused_of_notMem_namesIn`** — so it is with a
  name that is new in a directory.
* **`Tree.enter_eq_ok_iff`**, **`Tree.targetAt_eq_ok_iff`** — when a name leads on, and when an
  entry can be made.
* **`Tree.directoryAt_iff_of_isDirectory_eq`**, **`Tree.targetAt_iff_of_isDirectory_eq`** — the way
  to a directory and the place of an entry depend on the directories of a tree only, which are as
  before with a file where no directory was, by **`Tree.isDirectory_insert_file`**. -/

namespace RomCompiler.Tree

/-- `tree.Unused location`: no entry of a tree has a location. -/
def Unused (tree : Tree) (location : Location) : Prop := ∀ entry ∈ tree.entries, entry.1 ≠ location

variable {tree : Tree} {location : Location}

/-! ## Making and erasing an entry -/

/-- Erasing an entry that was just made is erasing what was there before. -/
theorem erase_insert (tree : Tree) (location : Location) (entry : Entry) :
    (tree.insert location entry).erase location = tree.erase location := by
  simp [insert, erase]

/-- Of two entries made at one location the second counts. -/
theorem insert_insert (tree : Tree) (location : Location) (first second : Entry) :
    (tree.insert location first).insert location second = tree.insert location second := by
  rw [insert, erase_insert]
  rfl

/-- `(tree.insert location entry).find? location = some entry`: an entry is where it was made. -/
theorem find?_insert_self (tree : Tree) (entry : Entry) (h : location ≠ []) :
    (tree.insert location entry).find? location = some entry := by
  rw [find?_insert tree entry h, if_pos rfl]

/-- `(tree.insert location entry).find? other = tree.find? other`: an entry changes nothing at other
locations. -/
theorem find?_insert_of_ne (tree : Tree) (entry : Entry) {other : Location} (h : other ≠ location) :
    (tree.insert location entry).find? other = tree.find? other := by
  rcases other with _ | ⟨name, above⟩
  · rfl
  · rw [find?_insert tree entry (List.cons_ne_nil name above), if_neg h]

/-- `tree.erase location = tree`: there is nothing to erase at an unused location. -/
theorem Unused.erase_eq (h : tree.Unused location) : tree.erase location = tree := by
  have hall : tree.entries.filter (·.1 != location) = tree.entries := by
    rw [List.filter_eq_self]
    intro entry hentry
    simpa using h entry hentry
  rw [erase, hall]

/-- `(tree.insert location entry).erase location = tree`: an entry made at an unused location and
erased again leaves nothing behind. -/
theorem Unused.erase_insert_eq (h : tree.Unused location) (entry : Entry) :
    (tree.insert location entry).erase location = tree := by
  rw [erase_insert, h.erase_eq]

/-- `tree.find? location = none`: there is no entry at an unused location other than the root. -/
theorem Unused.find?_eq_none (h : tree.Unused location) (hne : location ≠ []) :
    tree.find? location = none := by
  rw [find?, if_neg hne, List.lookup_eq_none_iff]
  intro entry hentry
  simpa using (h entry hentry).symm

/-- `tree.isDirectory location = false`: there is no directory at an unused location other than the
root. -/
theorem Unused.isDirectory_eq_false (h : tree.Unused location) (hne : location ≠ []) :
    tree.isDirectory location = false := by
  rw [isDirectory, h.find?_eq_none hne]
  rfl

/-- **A name that is new in a directory makes an unused location**:
`tree.Unused (name :: location)`. -/
theorem unused_of_notMem_namesIn {name : Text} (h : name ∉ tree.namesIn location) :
    tree.Unused (name :: location) := by
  rintro ⟨place, content⟩ hentry rfl
  apply h
  rw [namesIn, List.mem_filterMap]
  exact ⟨_, hentry, if_pos rfl⟩

/-! ## When names lead somewhere -/

/-- **A name leads on from a directory: it stands for the directory itself, for the one above, or
for an entry that is there.** -/
theorem enter_eq_ok_iff {name : Text} {next : Location} :
    tree.enter location name = .ok next ↔ tree.isDirectory location = true ∧
      (name = Path.self ∧ next = location ∨ name = Path.up ∧ next = location.tail ∨
        name ≠ Path.self ∧ name ≠ Path.up ∧ Path.byteLength name ≤ Path.maxNameLength ∧
          (tree.find? (name :: location)).isSome ∧ next = name :: location) := by
  have hdots : Path.up ≠ Path.self := by decide
  constructor
  · intro h
    unfold enter at h
    split at h
    · exact absurd h (by simp)
    · next hdirectory =>
      refine ⟨by simpa using hdirectory, ?_⟩
      split at h
      · next hself => exact Or.inl ⟨hself, (Except.ok.inj h).symm⟩
      · next hself =>
        split at h
        · next hup => exact Or.inr (Or.inl ⟨hup, (Except.ok.inj h).symm⟩)
        · next hup =>
          split at h
          · exact absurd h (by simp)
          · next hlong =>
            split at h
            · exact absurd h (by simp)
            · next hentry =>
              exact Or.inr (Or.inr ⟨hself, hup, Nat.le_of_not_lt hlong,
                by simpa [Option.isSome_iff_ne_none] using hentry, (Except.ok.inj h).symm⟩)
  · rintro ⟨hdirectory, ⟨rfl, rfl⟩ | ⟨rfl, rfl⟩ | ⟨hself, hup, hlong, hentry, rfl⟩⟩
    · rw [enter, if_neg (by simp [hdirectory]), if_pos rfl]
    · rw [enter, if_neg (by simp [hdirectory]), if_neg hdots, if_pos rfl]
    · rw [enter, if_neg (by simp [hdirectory]), if_neg hself, if_neg hup,
        if_neg (Nat.not_lt.mpr hlong), if_neg (by simpa [Option.isSome_iff_ne_none] using hentry)]

/-- Some names lead somewhere if the first one leads on, and the others from there. -/
theorem walk_cons_eq_ok_iff {start last : Location} {name : Text} {rest : List Text} :
    tree.walk start (name :: rest) = .ok last ↔
      ∃ next, tree.enter start name = .ok next ∧ tree.walk next rest = .ok last := by
  rw [walk]
  rcases tree.enter start name with refusal | next
  · simp [bind, Except.bind]
  · constructor
    · intro h
      exact ⟨next, rfl, h⟩
    · rintro ⟨other, hother, h⟩
      rw [← Except.ok.inj hother] at h
      exact h

/-- From something that is not a directory, no name leads anywhere. -/
theorem eq_of_walk_eq_ok {start : Location} {names : List Text} {last : Location}
    (hstart : tree.isDirectory start = false) (h : tree.walk start names = .ok last) :
    last = start := by
  rcases names with _ | ⟨name, rest⟩
  · exact (Except.ok.inj h).symm
  · obtain ⟨next, hnext, -⟩ := walk_cons_eq_ok_iff.mp h
    have hdirectory := (enter_eq_ok_iff.mp hnext).1
    rw [hstart] at hdirectory
    exact Bool.noConfusion hdirectory

/-- `tree.walk start (front ++ back) = tree.walk middle back`: names after others are followed from
where those lead. -/
theorem walk_append_of_ok {start middle : Location} {front : List Text}
    (h : tree.walk start front = .ok middle) (back : List Text) :
    tree.walk start (front ++ back) = tree.walk middle back := by
  induction front generalizing start with
  | nil =>
    rw [Except.ok.inj h]
    rfl
  | cons name front ih =>
    obtain ⟨next, hnext, hrest⟩ := walk_cons_eq_ok_iff.mp h
    rw [List.cons_append, walk, hnext]
    exact ih hrest

/-- Names lead to a directory if they lead somewhere, and a directory is there. -/
theorem directoryAt_eq_ok_iff {start : Location} {names : List Text} {directory : Location} :
    tree.directoryAt start names = .ok directory ↔
      tree.walk start names = .ok directory ∧ tree.isDirectory directory = true := by
  rw [directoryAt]
  rcases tree.walk start names with refusal | last
  · simp [bind, Except.bind]
  · by_cases hlast : tree.isDirectory last = true
    · constructor
      · intro h
        obtain rfl : last = directory := by
          simpa [bind, Except.bind, pure, Except.pure, hlast] using h
        exact ⟨rfl, hlast⟩
      · rintro ⟨h, -⟩
        rw [← Except.ok.inj h]
        simp [bind, Except.bind, pure, Except.pure, hlast]
    · constructor
      · intro h
        exact absurd h (by simp [bind, Except.bind, hlast])
      · rintro ⟨h, hdirectory⟩
        rw [← Except.ok.inj h] at hdirectory
        exact absurd hdirectory hlast

/-- An ordinary name after those of a directory leads to the entry there, if it is a directory. -/
theorem directoryAt_concat_iff {start above directory : Location} {front : List Text} {name : Text}
    (hfront : tree.directoryAt start front = .ok above) (hself : name ≠ Path.self)
    (hup : name ≠ Path.up) (hlong : Path.byteLength name ≤ Path.maxNameLength) :
    tree.directoryAt start (front ++ [name]) = .ok directory ↔
      directory = name :: above ∧ tree.isDirectory (name :: above) = true := by
  obtain ⟨hwalk, habove⟩ := directoryAt_eq_ok_iff.mp hfront
  rw [directoryAt_eq_ok_iff, walk_append_of_ok hwalk]
  constructor
  · rintro ⟨hlast, hdirectory⟩
    obtain ⟨next, henter, hnext⟩ := walk_cons_eq_ok_iff.mp hlast
    obtain rfl := Except.ok.inj hnext
    rcases (enter_eq_ok_iff.mp henter).2 with ⟨heq, -⟩ | ⟨heq, -⟩ | ⟨-, -, -, -, rfl⟩
    · exact absurd heq hself
    · exact absurd heq hup
    · exact ⟨rfl, hdirectory⟩
  · rintro ⟨rfl, hdirectory⟩
    have hentry : (tree.find? (name :: above)).isSome := by
      rw [beq_iff_eq.mp hdirectory]
      rfl
    have henter := enter_eq_ok_iff.mpr
      ⟨habove, Or.inr (Or.inr ⟨hself, hup, hlong, hentry, rfl⟩)⟩
    exact ⟨walk_cons_eq_ok_iff.mpr ⟨_, henter, rfl⟩, hdirectory⟩

/-- **An entry can be made where its directory is there and its name is an ordinary one, unless
there is a directory.** -/
theorem targetAt_eq_ok_iff {start : Location} {names : List Text} {mustBeDirectory : Bool}
    {target : Location} :
    tree.targetAt start names mustBeDirectory = .ok target ↔
      mustBeDirectory = false ∧ tree.isDirectory target = false ∧
        ∃ name directory, names.getLast? = some name ∧ target = name :: directory ∧
          tree.directoryAt start names.dropLast = .ok directory ∧
          name ≠ Path.self ∧ name ≠ Path.up ∧ Path.byteLength name ≤ Path.maxNameLength := by
  constructor
  · intro h
    unfold targetAt at h
    rcases hdirectory : tree.directoryAt start names.dropLast with refusal | directory
    · rw [hdirectory] at h
      exact absurd h (by simp [bind, Except.bind])
    · rw [hdirectory] at h
      rcases hname : names.getLast? with _ | name
      · rw [hname] at h
        exact absurd h (by simp [bind, Except.bind])
      · rw [hname] at h
        change (if name = Path.self ∨ name = Path.up then _ else _) = _ at h
        split at h
        · exact absurd h (by simp)
        · next hdots =>
          split at h
          · exact absurd h (by simp)
          · next hlong =>
            split at h
            · exact absurd h (by simp)
            · next hmust =>
              split at h
              · exact absurd h (by simp)
              · next hnot =>
                obtain rfl := Except.ok.inj h
                rw [not_or] at hdots
                exact ⟨by simpa using hmust, by simpa using hnot, name, directory, rfl, rfl,
                  rfl, hdots.1, hdots.2, Nat.le_of_not_lt hlong⟩
  · rintro ⟨hmust, hnot, name, directory, hname, rfl, hdirectory, hself, hup, hlong⟩
    rw [targetAt, hdirectory, hname]
    change (if name = Path.self ∨ name = Path.up then _ else _) = _
    rw [if_neg (by simp [hself, hup]), if_neg (Nat.not_lt.mpr hlong), if_neg (by simp [hmust]),
      if_neg (by simp [hnot])]
    rfl

/-! ## Trees with the same directories -/

section SameDirectories

variable {other : Tree} (h : ∀ location, tree.isDirectory location = other.isDirectory location)

include h

/-- `other.enter start name = .ok next`: a name that leads to a directory does so in every tree with
the same directories. -/
theorem enter_of_isDirectory_eq {start next : Location} {name : Text}
    (hnext : tree.isDirectory next = true) (henter : tree.enter start name = .ok next) :
    other.enter start name = .ok next := by
  rw [enter_eq_ok_iff] at henter ⊢
  rw [← h]
  refine ⟨henter.1, ?_⟩
  rcases henter.2 with hself | hup | ⟨hself, hup, hlong, -, rfl⟩
  · exact Or.inl hself
  · exact Or.inr (Or.inl hup)
  · have hentry : other.find? (name :: start) = some .directory := by
      rw [h] at hnext
      exact beq_iff_eq.mp hnext
    refine Or.inr (Or.inr ⟨hself, hup, hlong, ?_, rfl⟩)
    rw [hentry]
    rfl

/-- `other.walk start names = .ok last`: names that lead to a directory do so in every tree with the
same directories. -/
theorem walk_of_isDirectory_eq {start last : Location} {names : List Text}
    (hlast : tree.isDirectory last = true) (hwalk : tree.walk start names = .ok last) :
    other.walk start names = .ok last := by
  induction names generalizing start with
  | nil => exact hwalk
  | cons name rest ih =>
    obtain ⟨next, hnext, hrest⟩ := walk_cons_eq_ok_iff.mp hwalk
    -- no name leads on from a file, so there is none on the way to a directory
    have hdirectory : tree.isDirectory next = true := by
      rcases hnot : tree.isDirectory next with _ | _
      · rw [eq_of_walk_eq_ok hnot hrest, hnot] at hlast
        exact hlast
      · rfl
    exact walk_cons_eq_ok_iff.mpr ⟨next, enter_of_isDirectory_eq h hdirectory hnext, ih hrest⟩

/-- **Names lead to the same directory in trees with the same directories.** -/
theorem directoryAt_iff_of_isDirectory_eq {start directory : Location} {names : List Text} :
    tree.directoryAt start names = .ok directory ↔
      other.directoryAt start names = .ok directory := by
  rw [directoryAt_eq_ok_iff, directoryAt_eq_ok_iff, ← h]
  constructor
  · rintro ⟨hwalk, hdirectory⟩
    exact ⟨walk_of_isDirectory_eq h hdirectory hwalk, hdirectory⟩
  · rintro ⟨hwalk, hdirectory⟩
    have hother : other.isDirectory directory = true := by
      rw [← h]
      exact hdirectory
    exact ⟨walk_of_isDirectory_eq (fun location => (h location).symm) hother hwalk, hdirectory⟩

/-- **An entry can be made at the same locations in trees with the same directories.** -/
theorem targetAt_iff_of_isDirectory_eq {start target : Location} {names : List Text}
    {mustBeDirectory : Bool} :
    tree.targetAt start names mustBeDirectory = .ok target ↔
      other.targetAt start names mustBeDirectory = .ok target := by
  simp only [targetAt_eq_ok_iff, h, directoryAt_iff_of_isDirectory_eq h]

end SameDirectories

/-- **A file where no directory was changes no directory.** -/
theorem isDirectory_insert_file (hnot : tree.isDirectory location = false) (content : Bytes)
    (other : Location) :
    (tree.insert location (.file content)).isDirectory other = tree.isDirectory other := by
  rcases other with _ | ⟨name, above⟩
  · rfl
  · rw [isDirectory, find?_insert _ _ (List.cons_ne_nil name above)]
    split
    · next heq =>
      rw [heq, hnot]
      rfl
    · rfl

end RomCompiler.Tree
