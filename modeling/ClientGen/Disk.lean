import ClientGen.Path

/-!
# Disks

What lies on a disk, as a value: files with their bytes, and directories. The
working directory and the directories above it exist, and so does the root.

A path is followed name by name from its start, and every name but the last
must be that of a directory. What is asked of a path may fail for one of the
reasons that `Trouble` lists.
-/

namespace ClientGen

/-- A place on a disk: the names that lead there from the root, or from the
directory that lies `up` levels above the working one. -/
structure Place where
  absolute : Bool
  up : Nat
  names : List String
  deriving DecidableEq, Repr, Inhabited

/-- What lies at a place. -/
inductive Entry where
  | directory
  | file (content : ByteArray)

/-- Whether two entries are directories, or files of the same content. -/
def Entry.same : Entry → Entry → Bool
  | .directory, .directory => true
  | .file a, .file b => a.data == b.data
  | _, _ => false

/-- Why something could not be done with a path. -/
inductive Trouble where
  | notFound
  | notADirectory
  | isADirectory
  | exists
  | nameTooLong
  /-- The path holds the character that no path can hold. -/
  | nulInPath
  deriving DecidableEq, Repr

namespace Trouble

/-- The number that the operating system gives the trouble, and what it calls
it. -/
def code : Trouble → Nat × String
  | .notFound => (2, "No such file or directory")
  | .notADirectory => (20, "Not a directory")
  | .isADirectory => (21, "Is a directory")
  | .exists => (17, "File exists")
  | .nameTooLong => (36, "File name too long")
  | .nulInPath => (22, "embedded null byte")

/-- The message about a path. -/
def message (t : Trouble) (p : Path) : String :=
  "[Errno " ++ toString t.code.1 ++ "] " ++ t.code.2 ++ ": " ++ p.quoted

end Trouble

/-- All that lies on a disk, in the order in which it was put there. -/
structure Disk where
  entries : List (Place × Entry)

namespace Place

/-- Where a path starts. -/
def startOf (p : Path) : Place := ⟨p.isAbsolute, 0, []⟩

/-- The directory that a place lies in; the root lies in itself. -/
def above (p : Place) : Place :=
  match p.names with
  | [] => if p.absolute then p else ⟨false, p.up + 1, []⟩
  | names => { p with names := names.dropLast }

/-- The place of a name in a directory. -/
def below (p : Place) (name : String) : Place :=
  { p with names := p.names ++ [name] }

/-- The text of a place that lies below the working directory. -/
def text (p : Place) : String := "/".intercalate p.names

/-- The text that leads to a place from the working directory. -/
def reference (p : Place) : String :=
  if p.absolute then "/" ++ p.text
  else
    match List.replicate p.up ".." ++ p.names with
    | [] => "."
    | way => "/".intercalate way

end Place

namespace Disk

/-- The disk with nothing on it. -/
def empty : Disk := ⟨[]⟩

/-- What lies at a place, if anything does. -/
def at? (d : Disk) (p : Place) : Option Entry :=
  if p.names.isEmpty then some .directory else d.entries.lookup p

/-- The disk with something put at a place. -/
def put (d : Disk) (p : Place) (e : Entry) : Disk :=
  if d.entries.any fun x => x.1 == p then
    ⟨d.entries.map fun x => if x.1 = p then (p, e) else x⟩
  else ⟨d.entries ++ [(p, e)]⟩

/-! ### What is found after something was put -/

private theorem lookup_cons_of_ne (l : List (Place × Entry)) {p q : Place}
    (h : q ≠ p) (e : Entry) : ((p, e) :: l).lookup q = l.lookup q := by
  have hb : (q == p) = false := by simpa using h
  simp [List.lookup_cons, hb]

private theorem lookup_replace (l : List (Place × Entry)) (p q : Place)
    (e : Entry) :
    (l.map fun x => if x.1 = p then (p, e) else x).lookup q =
      if q = p then (l.lookup p).map fun _ => e else l.lookup q := by
  induction l with
  | nil => simp
  | cons x l ih =>
    obtain ⟨r, f⟩ := x
    rw [List.map_cons]
    by_cases hr : r = p
    · subst hr
      by_cases hq : q = r
      · subst hq; simp
      · simp [lookup_cons_of_ne _ hq, ih, hq]
    · by_cases hq : q = r
      · subst hq; simp [hr]
      · by_cases hp : q = p
        · subst hp
          simp [lookup_cons_of_ne _ hq, ih, hr]
        · simp [lookup_cons_of_ne _ hq, ih, hr, hp]

private theorem isSome_lookup (l : List (Place × Entry)) (p : Place) :
    (l.lookup p).isSome = l.any fun x => x.1 == p := by
  induction l with
  | nil => rfl
  | cons x l ih =>
    obtain ⟨r, f⟩ := x
    by_cases h : p = r
    · subst h; simp
    · have hb : (r == p) = false := by simpa using Ne.symm h
      rw [lookup_cons_of_ne _ h, ih, List.any_cons, hb, Bool.false_or]

private theorem lookup_put (d : Disk) (p q : Place) (e : Entry) :
    (d.put p e).entries.lookup q =
      if q = p then some e else d.entries.lookup q := by
  unfold put
  split
  · next h =>
    rw [← isSome_lookup] at h
    obtain ⟨f, hf⟩ := Option.isSome_iff_exists.1 h
    rw [lookup_replace, hf]
    rfl
  · next h =>
    rw [← isSome_lookup, Bool.not_eq_true, Option.isSome_eq_false_iff,
      Option.isNone_iff_eq_none] at h
    rw [List.lookup_append]
    by_cases hq : q = p
    · subst hq; simp [h]
    · simp [lookup_cons_of_ne _ hq, hq]

/-- What was put is found. -/
theorem at?_put_self (d : Disk) {p : Place} (h : p.names ≠ []) (e : Entry) :
    (d.put p e).at? p = some e := by
  simp [at?, h, lookup_put]

/-- All else stays as it was. -/
theorem at?_put_of_ne (d : Disk) {p q : Place} (h : q ≠ p) (e : Entry) :
    (d.put p e).at? q = d.at? q := by
  simp [at?, h, lookup_put]

/-- What has to be put on a disk to make it like another one, in order. -/
def changes (before after : Disk) : List (Place × Entry) :=
  after.entries.filter fun e => !(before.entries.lookup e.1).any (·.same e.2)

/-- The greatest size of a name, in bytes. -/
def maxName : Nat := 255

/-- The greatest size of a path, in bytes. -/
def maxPath : Nat := 4095

/-- The place that names lead to from a directory. It need not be occupied, but
everything on the way is a directory. -/
def follow (d : Disk) : Place → List String → Except Trouble Place
  | p, [] => .ok p
  | p, n :: rest =>
    match d.at? p with
    | none => .error .notFound
    | some (.file _) => .error .notADirectory
    | some .directory =>
      if n = ".." then follow d p.above rest
      else if maxName < n.utf8ByteSize then .error .nameTooLong
      else follow d (p.below n) rest

/-- The place of a path. -/
def resolve (d : Disk) (p : Path) : Except Trouble Place :=
  if p.text.toList.contains (Char.ofNat 0) then .error .nulInPath
  else if maxPath < p.text.utf8ByteSize then .error .nameTooLong
  else d.follow (.startOf p) p.names

/-- What lies at a path. -/
def entryAt (d : Disk) (p : Path) : Except Trouble Entry := do
  match d.at? (← d.resolve p) with
  | some e => return e
  | none => .error .notFound

/-- What lies at a path given as text. The empty text names nothing, and a
slash at the end asks for a directory. -/
def entryAtText (d : Disk) (s : String) : Except Trouble Entry := do
  if s = "" then .error .notFound
  else
    let e ← d.entryAt (.ofText s)
    let wantsDirectory := s.endsWith "/" || s.endsWith "/."
    match e with
    | .directory => return e
    | .file _ => if wantsDirectory then .error .notADirectory else return e

/-- Whether a directory lies at a path. -/
def isDirectory (d : Disk) (p : Path) : Except Trouble Bool :=
  match d.entryAt p with
  | .ok .directory => .ok true
  | .ok (.file _) => .ok false
  | .error .notFound => .ok false
  | .error .notADirectory => .ok false
  | .error t => .error t

/-- The bytes of the file at a path. -/
def readFile (d : Disk) (p : Path) : Except Trouble ByteArray := do
  match ← d.entryAt p with
  | .file bytes => return bytes
  | .directory => .error .isADirectory

/-- The disk with a directory made at a path where nothing lies. -/
def makeDirectory (d : Disk) (p : Path) : Except Trouble Disk := do
  let place ← d.resolve p
  match d.at? place with
  | some _ => .error .exists
  | none => return d.put place .directory

/-- The disk with a file written at a path, in place of the one that lies
there. -/
def writeFile (d : Disk) (p : Path) (bytes : ByteArray) : Except Trouble Disk := do
  let place ← d.resolve p
  match d.at? place with
  | some .directory => .error .isADirectory
  | _ => return d.put place (.file bytes)

/-- Makes a directory at a path unless one is there. The disk stays as it is
if that fails. -/
def ensureDirectory (d : Disk) (p : Path) : Disk × Except Trouble Unit :=
  match d.makeDirectory p with
  | .ok d => (d, .ok ())
  | .error .nulInPath => (d, .error .nulInPath)
  | .error t =>
    match d.isDirectory p with
    | .ok true => (d, .ok ())
    | .ok false => (d, .error t)
    | .error u => (d, .error u)

/-- Makes a directory, given by its names from the last one on, and those that
it lies in as far as they are missing. -/
def ensureFromLast (root : String) (d : Disk) :
    List String → Disk × Except Trouble Unit
  | [] => d.ensureDirectory ⟨root, []⟩
  | n :: outer =>
    let p : Path := ⟨root, (n :: outer).reverse⟩
    match d.makeDirectory p with
    | .error .notFound =>
      match ensureFromLast root d outer with
      | (d, .ok ()) => d.ensureDirectory p
      | (d, .error t) => (d, .error t)
    | _ => d.ensureDirectory p

/-- Makes a directory and those that it lies in, as far as they are missing.
What was made before a trouble stays. -/
def ensureDirectories (d : Disk) (p : Path) : Disk × Except Trouble Unit :=
  ensureFromLast p.root d p.names.reverse

end Disk

end ClientGen
