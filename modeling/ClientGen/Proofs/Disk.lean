import ClientGen.Disk

/-!
# What changes a disk

A path leads through directories only, so where it leads hangs on nothing but
the directories of the disk (`resolve_of_keeps`). Making the directories that a
path leads through adds directories on the way and nothing else
(`grows_ensureDirectories`), and does nothing once they are there
(`ensureDirectories_of_directory`). Writing a file changes what lies at one
place, which stays no directory.
-/

namespace ClientGen

/-- The place that one name leads to from a directory. -/
def Place.next (q : Place) (n : String) : Place :=
  if n = ".." then q.above else q.below n

namespace Path

/-- The system takes a path: it is not too long and holds no character that no
path can hold. -/
def Passable (p : Path) : Prop :=
  p.text.toList.contains (Char.ofNat 0) = false ∧
    p.text.utf8ByteSize ≤ Disk.maxPath

/-- A path is taken if a longer one is. -/
theorem Passable.of_child {root n : String} {names : List String}
    (h : Passable ⟨root, names ++ [n]⟩) : Passable ⟨root, names⟩ := by
  obtain ⟨hnul, hsize⟩ := h
  have hlong : text ⟨root, names ++ [n]⟩ =
      root ++ "/".intercalate (names ++ [n]) := by
    simp [text]
  rw [hlong] at hnul hsize
  by_cases hnames : names = []
  · subst hnames
    by_cases hroot : root = ""
    · subst hroot
      exact ⟨by decide, by decide⟩
    · have hshort : text ⟨root, []⟩ = root := by simp [text, hroot]
      rw [Passable, hshort]
      simp only [String.toList_append, List.contains_append,
        Bool.or_eq_false_iff] at hnul
      rw [String.utf8ByteSize_append] at hsize
      exact ⟨hnul.1, by omega⟩
  · have hshort : text ⟨root, names⟩ = root ++ "/".intercalate names := by
      simp [text, hnames]
    have hsplit : "/".intercalate (names ++ [n]) =
        "/".intercalate names ++ "/" ++ "/".intercalate [n] :=
      String.intercalate_append_of_ne_nil hnames (by simp)
    rw [Passable, hshort]
    simp only [hsplit, String.toList_append, List.contains_append,
      Bool.or_eq_false_iff] at hnul ⊢
    simp only [hsplit, String.utf8ByteSize_append] at hsize ⊢
    exact ⟨⟨hnul.1, hnul.2.1.1⟩, by omega⟩

end Path

namespace Disk

variable {d d' d'' : Disk}

/-! ### Where a path leads -/

/-- A name leads on from a directory only. -/
theorem follow_cons_eq_ok {q r : Place} {n : String} {rest : List String} :
    d.follow q (n :: rest) = .ok r ↔
      d.at? q = some .directory ∧ (n = ".." ∨ n.utf8ByteSize ≤ maxName) ∧
        d.follow (q.next n) rest = .ok r := by
  rw [follow]
  cases d.at? q with
  | none => simp
  | some e =>
    cases e with
    | file content => simp
    | directory =>
      by_cases hup : n = ".."
      · simp [hup, Place.next]
      · by_cases hlong : maxName < n.utf8ByteSize
        · simp [hup, hlong, Nat.not_le.2 hlong]
        · simp [hup, hlong, Nat.not_lt.1 hlong, Place.next]

/-- Names lead where their first part and from there their second part
leads. -/
theorem follow_append_eq_ok {q r : Place} {names more : List String} :
    d.follow q (names ++ more) = .ok r ↔
      ∃ m, d.follow q names = .ok m ∧ d.follow m more = .ok r := by
  induction names generalizing q with
  | nil =>
    have hnil : d.follow q [] = .ok q := rfl
    simp [hnil]
  | cons n rest ih =>
    rw [List.cons_append, follow_cons_eq_ok, ih]
    constructor
    · rintro ⟨hdir, hname, m, hm, hr⟩
      exact ⟨m, follow_cons_eq_ok.2 ⟨hdir, hname, hm⟩, hr⟩
    · rintro ⟨m, hm, hr⟩
      obtain ⟨hdir, hname, hm⟩ := follow_cons_eq_ok.1 hm
      exact ⟨hdir, hname, m, hm, hr⟩

theorem resolve_eq_ok {p : Path} {q : Place} :
    d.resolve p = .ok q ↔
      p.Passable ∧ d.follow (.startOf p) p.names = .ok q := by
  unfold resolve Path.Passable
  by_cases hnul : p.text.toList.contains (Char.ofNat 0) = true
  · rw [if_pos hnul, hnul]
    simp
  · rw [if_neg hnul]
    rw [Bool.not_eq_true] at hnul
    by_cases hlong : maxPath < p.text.utf8ByteSize
    · rw [if_pos hlong]
      simp [Nat.not_le.2 hlong]
    · rw [if_neg hlong]
      exact ⟨fun h => ⟨⟨hnul, Nat.not_lt.1 hlong⟩, h⟩, And.right⟩

theorem entryAt_eq_ok {p : Path} {e : Entry} :
    d.entryAt p = .ok e ↔ ∃ q, d.resolve p = .ok q ∧ d.at? q = some e := by
  unfold entryAt
  cases d.resolve p with
  | error t => simp [bind, Except.bind]
  | ok q =>
    cases hq : d.at? q with
    | none => simp [bind, Except.bind, hq]
    | some f => simp [bind, Except.bind, pure, Except.pure, hq]

theorem readFile_eq_ok {p : Path} {bytes : ByteArray} :
    d.readFile p = .ok bytes ↔
      ∃ q, d.resolve p = .ok q ∧ d.at? q = some (.file bytes) := by
  rw [← entryAt_eq_ok, readFile]
  cases d.entryAt p with
  | error t => simp [bind, Except.bind]
  | ok e =>
    cases e with
    | directory => simp [bind, Except.bind]
    | file content => simp [bind, Except.bind, pure, Except.pure]

/-- A directory lies in a directory. -/
theorem directory_of_child {root n : String} {names : List String}
    (h : d.entryAt ⟨root, names ++ [n]⟩ = .ok .directory) :
    d.entryAt ⟨root, names⟩ = .ok .directory := by
  obtain ⟨q, hq, -⟩ := entryAt_eq_ok.1 h
  obtain ⟨hpassable, hfollow⟩ := resolve_eq_ok.1 hq
  obtain ⟨m, hm, hlast⟩ := follow_append_eq_ok.1 hfollow
  obtain ⟨hdir, -, -⟩ := follow_cons_eq_ok.1 hlast
  exact entryAt_eq_ok.2 ⟨m, resolve_eq_ok.2 ⟨hpassable.of_child, hm⟩, hdir⟩

/-! ### Directories that stay -/

/-- All directories of a disk are directories of another one. -/
def Keeps (d d' : Disk) : Prop :=
  ∀ q, d.at? q = some .directory → d'.at? q = some .directory

theorem follow_of_keeps (h : d.Keeps d') {q r : Place} {names : List String}
    (hr : d.follow q names = .ok r) : d'.follow q names = .ok r := by
  induction names generalizing q with
  | nil => exact hr
  | cons n rest ih =>
    obtain ⟨hdir, hname, hrest⟩ := follow_cons_eq_ok.1 hr
    exact follow_cons_eq_ok.2 ⟨h q hdir, hname, ih hrest⟩

/-- Where a path leads, it leads as long as all directories stay. -/
theorem resolve_of_keeps (h : d.Keeps d') {p : Path} {q : Place}
    (hq : d.resolve p = .ok q) : d'.resolve p = .ok q := by
  obtain ⟨hpassable, hfollow⟩ := resolve_eq_ok.1 hq
  exact resolve_eq_ok.2 ⟨hpassable, follow_of_keeps h hfollow⟩

theorem directory_of_keeps (h : d.Keeps d') {p : Path}
    (hp : d.entryAt p = .ok .directory) : d'.entryAt p = .ok .directory := by
  obtain ⟨q, hq, hdir⟩ := entryAt_eq_ok.1 hp
  exact entryAt_eq_ok.2 ⟨q, resolve_of_keeps h hq, h q hdir⟩

/-- Two disks have the same directories. -/
def SameDirectories (d d' : Disk) : Prop :=
  ∀ q, d.at? q = some .directory ↔ d'.at? q = some .directory

theorem SameDirectories.keeps (h : d.SameDirectories d') : d.Keeps d' :=
  fun q => (h q).1

theorem SameDirectories.symm (h : d.SameDirectories d') :
    d'.SameDirectories d := fun q => (h q).symm

theorem SameDirectories.trans (h : d.SameDirectories d')
    (h' : d'.SameDirectories d'') : d.SameDirectories d'' :=
  fun q => (h q).trans (h' q)

/-- Paths lead to the same places on disks that have the same directories. -/
theorem SameDirectories.resolve_iff (h : d.SameDirectories d') {p : Path}
    {q : Place} : d.resolve p = .ok q ↔ d'.resolve p = .ok q :=
  ⟨resolve_of_keeps h.keeps, resolve_of_keeps h.symm.keeps⟩

private theorem at?_start (d : Disk) {q : Place} (h : q.names = []) :
    d.at? q = some .directory := by
  simp [at?, h]

/-- Where no directory lies is not the start of a path. -/
theorem names_ne_nil {q : Place} (h : d.at? q ≠ some .directory) :
    q.names ≠ [] := fun hnil => h (d.at?_start hnil)

/-- Putting a file where no directory lies leaves the directories as they
are. -/
theorem sameDirectories_put {q : Place} (h : d.at? q ≠ some .directory)
    (content : ByteArray) : d.SameDirectories (d.put q (.file content)) := by
  intro r
  by_cases hr : r = q
  · subst hr
    rw [at?_put_self d (names_ne_nil h)]
    simp [h]
  · rw [at?_put_of_ne d hr]

/-- A file is written exactly where a path leads and no directory lies. -/
theorem writeFile_eq_ok {p : Path} {bytes : ByteArray} :
    d.writeFile p bytes = .ok d' ↔
      ∃ q, d.resolve p = .ok q ∧ d.at? q ≠ some .directory ∧
        d' = d.put q (.file bytes) := by
  unfold writeFile
  cases d.resolve p with
  | error t => simp [bind, Except.bind]
  | ok q =>
    cases hq : d.at? q with
    | none => simp [bind, Except.bind, pure, Except.pure, hq, eq_comm]
    | some e =>
      cases e with
      | directory => simp [bind, Except.bind, hq]
      | file content =>
        simp [bind, Except.bind, pure, Except.pure, hq, eq_comm]

/-! ### Directories on the way -/

/-- A path leads through a place, which may be its end. -/
def LeadsThrough (d : Disk) (p : Path) (q : Place) : Prop :=
  ∃ names, names <+: p.names ∧ d.follow (.startOf p) names = .ok q

/-- A disk is another one with directories added that a path leads through,
where nothing lay before. -/
def Grows (d : Disk) (p : Path) (d' : Disk) : Prop :=
  ∀ q, d'.at? q = d.at? q ∨
    d.at? q = none ∧ d'.at? q = some .directory ∧ d'.LeadsThrough p q

variable {p : Path}

theorem Grows.refl (d : Disk) (p : Path) : d.Grows p d :=
  fun _ => Or.inl rfl

theorem Grows.keeps (h : d.Grows p d') : d.Keeps d' := by
  intro q hq
  rcases h q with hsame | ⟨hnone, -, -⟩
  · rw [hsame, hq]
  · rw [hq] at hnone
    cases hnone

theorem Grows.trans (h : d.Grows p d') (h' : d'.Grows p d'') :
    d.Grows p d'' := by
  intro q
  rcases h' q with hsame' | ⟨hnone', hdir', hway'⟩
  · rcases h q with hsame | ⟨hnone, hdir, names, hfirst, hfollow⟩
    · left
      rw [hsame', hsame]
    · right
      have hway : d''.LeadsThrough p q :=
        ⟨names, hfirst, follow_of_keeps h'.keeps hfollow⟩
      exact ⟨hnone, hsame'.trans hdir, hway⟩
  · rcases h q with hsame | ⟨-, hdir, -⟩
    · right
      exact ⟨hsame.symm.trans hnone', hdir', hway'⟩
    · rw [hdir] at hnone'
      cases hnone'

/-- Putting a directory where nothing lies, on the way of a path. -/
private theorem grows_put {q : Place} (hnone : d.at? q = none)
    (hway : d.LeadsThrough p q) : d.Grows p (d.put q .directory) := by
  have hplace : d.at? q ≠ some .directory := by simp [hnone]
  have hnames : q.names ≠ [] := names_ne_nil hplace
  have hkeeps : d.Keeps (d.put q .directory) := by
    intro r hr
    by_cases hrq : r = q
    · rw [hrq, at?_put_self d hnames]
    · rw [at?_put_of_ne d hrq, hr]
  intro r
  by_cases hrq : r = q
  · subst hrq
    right
    obtain ⟨names, hfirst, hfollow⟩ := hway
    exact ⟨hnone, at?_put_self d hnames _, names, hfirst,
      follow_of_keeps hkeeps hfollow⟩
  · left
    exact at?_put_of_ne d hrq _

private theorem makeDirectory_eq_ok :
    d.makeDirectory p = .ok d' ↔
      ∃ q, d.resolve p = .ok q ∧ d.at? q = none ∧ d' = d.put q .directory := by
  unfold makeDirectory
  cases d.resolve p with
  | error t => simp [bind, Except.bind]
  | ok q =>
    cases hq : d.at? q with
    | none => simp [bind, Except.bind, pure, Except.pure, hq, eq_comm]
    | some e => simp [bind, Except.bind, hq]

private theorem isDirectory_eq_true :
    d.isDirectory p = .ok true ↔ d.entryAt p = .ok .directory := by
  unfold isDirectory
  split
  · next h => simp [h]
  · next h => simp [h]
  · next h => simp [h]
  · next h => simp [h]
  · next h => simp [h]

private theorem makeDirectory_of_directory
    (h : d.entryAt p = .ok .directory) :
    d.makeDirectory p = .error .exists := by
  obtain ⟨q, hq, hdir⟩ := entryAt_eq_ok.1 h
  simp [makeDirectory, hq, hdir, bind, Except.bind]

private theorem ensureDirectory_of_directory
    (h : d.entryAt p = .ok .directory) :
    d.ensureDirectory p = (d, .ok ()) := by
  rw [ensureDirectory, makeDirectory_of_directory h]
  simp only [isDirectory_eq_true.2 h]

/-- Making a directory either puts it where nothing lies or leaves the disk as
it is; it succeeds then only if the directory was there. -/
private theorem ensureDirectory_cases (d : Disk) (p : Path) :
    (∃ q, d.resolve p = .ok q ∧ d.at? q = none ∧
      d.ensureDirectory p = (d.put q .directory, .ok ())) ∨
    (d.ensureDirectory p).1 = d ∧
      ((d.ensureDirectory p).2 = .ok () → d.entryAt p = .ok .directory) := by
  unfold ensureDirectory
  split
  · next d' hmake =>
    left
    obtain ⟨q, hq, hnone, rfl⟩ := makeDirectory_eq_ok.1 hmake
    exact ⟨q, hq, hnone, rfl⟩
  · right
    exact ⟨rfl, fun h => by cases h⟩
  · right
    split
    · next h => exact ⟨rfl, fun _ => isDirectory_eq_true.1 h⟩
    · exact ⟨rfl, fun h => by cases h⟩
    · exact ⟨rfl, fun h => by cases h⟩

/-- Making a directory that a path leads through. -/
private theorem grows_ensureDirectory (d : Disk) {names : List String}
    (hfirst : names <+: p.names) :
    d.Grows p (d.ensureDirectory ⟨p.root, names⟩).1 := by
  rcases ensureDirectory_cases d ⟨p.root, names⟩ with
    ⟨q, hq, hnone, hmade⟩ | ⟨hsame, -⟩
  · rw [hmade]
    exact grows_put hnone ⟨names, hfirst, (resolve_eq_ok.1 hq).2⟩
  · rw [hsame]
    exact Grows.refl d p

private theorem directory_of_ensureDirectory
    (h : (d.ensureDirectory p).2 = .ok ()) :
    (d.ensureDirectory p).1.entryAt p = .ok .directory := by
  rcases ensureDirectory_cases d p with ⟨q, hq, hnone, hmade⟩ | ⟨hsame, hdir⟩
  · have hway : d.LeadsThrough p q :=
      ⟨p.names, List.prefix_refl _, (resolve_eq_ok.1 hq).2⟩
    have hgrows := grows_put hnone hway
    have hnames : q.names ≠ [] := names_ne_nil (by rw [hnone]; simp)
    rw [hmade]
    exact entryAt_eq_ok.2
      ⟨q, resolve_of_keeps hgrows.keeps hq, at?_put_self d hnames _⟩
  · rw [hsame]
    exact hdir h

/-! ### All directories on the way -/

/-- A directory whose own one is missing is made once that one is there; any
other one is made at once. -/
private theorem ensureFromLast_cons (root : String) (d : Disk) (n : String)
    (outer : List String) :
    ensureFromLast root d (n :: outer) =
        d.ensureDirectory ⟨root, (n :: outer).reverse⟩ ∨
      d.makeDirectory ⟨root, (n :: outer).reverse⟩ = .error .notFound ∧
        (ensureFromLast root d (n :: outer) =
            (ensureFromLast root d outer).1.ensureDirectory
              ⟨root, (n :: outer).reverse⟩ ∨
          ∃ t, ensureFromLast root d (n :: outer) =
            ((ensureFromLast root d outer).1, .error t)) := by
  by_cases hmake :
      d.makeDirectory ⟨root, (n :: outer).reverse⟩ = .error .notFound
  · right
    refine ⟨hmake, ?_⟩
    cases houter : ensureFromLast root d outer with
    | mk made outcome =>
      cases outcome with
      | ok u =>
        left
        simp only [ensureFromLast, hmake, houter]
      | error t =>
        right
        exact ⟨t, by simp only [ensureFromLast, hmake, houter]⟩
  · left
    simp only [ensureFromLast]

/-- Making all directories that a path leads through adds these and nothing
else, whether it succeeds or not. -/
private theorem grows_ensureFromLast (d : Disk) {reversed : List String}
    (hfirst : reversed.reverse <+: p.names) :
    d.Grows p (ensureFromLast p.root d reversed).1 := by
  induction reversed with
  | nil => exact grows_ensureDirectory d hfirst
  | cons n outer ih =>
    have houter : outer.reverse <+: p.names := by
      rw [List.reverse_cons] at hfirst
      exact (List.prefix_append _ _).trans hfirst
    rcases ensureFromLast_cons p.root d n outer with h | ⟨-, h | ⟨t, h⟩⟩
    · rw [h]
      exact grows_ensureDirectory d hfirst
    · rw [h]
      exact (ih houter).trans (grows_ensureDirectory _ hfirst)
    · rw [h]
      exact ih houter

private theorem directory_of_ensureFromLast {root : String}
    {reversed : List String}
    (h : (ensureFromLast root d reversed).2 = .ok ()) :
    (ensureFromLast root d reversed).1.entryAt ⟨root, reversed.reverse⟩ =
      .ok .directory := by
  cases reversed with
  | nil => exact directory_of_ensureDirectory h
  | cons n outer =>
    rcases ensureFromLast_cons root d n outer with hlast |
      ⟨-, hlast | ⟨t, hlast⟩⟩
    · rw [hlast] at h ⊢
      exact directory_of_ensureDirectory h
    · rw [hlast] at h ⊢
      exact directory_of_ensureDirectory h
    · rw [hlast] at h
      cases h

private theorem ensureFromLast_of_directory {root : String}
    {reversed : List String}
    (h : d.entryAt ⟨root, reversed.reverse⟩ = .ok .directory) :
    ensureFromLast root d reversed = (d, .ok ()) := by
  cases reversed with
  | nil => exact ensureDirectory_of_directory h
  | cons n outer =>
    rcases ensureFromLast_cons root d n outer with hlast | ⟨hmake, -⟩
    · rw [hlast]
      exact ensureDirectory_of_directory h
    · rw [makeDirectory_of_directory h] at hmake
      cases hmake

/-- Making the directories that a path leads through adds them and nothing
else, whether it succeeds or not. -/
theorem grows_ensureDirectories (d : Disk) (p : Path) :
    d.Grows p (d.ensureDirectories p).1 := by
  have hall : p.names.reverse.reverse <+: p.names :=
    (List.reverse_reverse p.names).symm ▸ List.prefix_refl p.names
  exact grows_ensureFromLast d hall

/-- Directories that are made are there. -/
theorem directory_of_ensureDirectories {p : Path}
    (h : (d.ensureDirectories p).2 = .ok ()) :
    (d.ensureDirectories p).1.entryAt p = .ok .directory := by
  have hdir := directory_of_ensureFromLast h
  rwa [List.reverse_reverse] at hdir

/-- Nothing is made if the directory is there. -/
theorem ensureDirectories_of_directory {p : Path}
    (h : d.entryAt p = .ok .directory) :
    d.ensureDirectories p = (d, .ok ()) := by
  have hdir : d.entryAt ⟨p.root, p.names.reverse.reverse⟩ = .ok .directory := by
    rw [List.reverse_reverse]
    exact h
  exact ensureFromLast_of_directory hdir

end Disk

end ClientGen
