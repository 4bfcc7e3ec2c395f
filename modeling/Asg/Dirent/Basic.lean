import Mathlib.Data.List.Basic

/-! The POSIX dirent calls of windows/src/dirent/dirent.cpp, over one directory. The directory is
the list of wide names FindFirstFileW and FindNextFileW return for its search path, the same on
every search. The DIR keeps the name `find_data` holds and the names FindNextFileW has yet to
give, with the `first`, `end_reached` and `current_position` fields. A call returns the value it
leaves in errno, where it writes one. -/

set_option autoImplicit false

namespace Asg.Windows

/-- A name as Windows gives it, in UTF-16 code units. -/
abbrev WName := List UInt16

/-- The errno values the calls write. -/
inductive Errno
  | ENOENT
  | ENAMETOOLONG
  | EINVAL
  deriving DecidableEq, Repr

/-- `struct dirent`. -/
structure Dirent where
  dIno : UInt64
  dName : List UInt8
  deriving DecidableEq, Repr

/-- `FILENAME_MAX`, the size of `d_name`: `MAX_PATH`. -/
def filenameMax : Nat := 260

/-- What the calls ask of the C++ library and of Windows: `wide_to_utf8`, and the file index
`get_file_index` reads for a full path. -/
structure Env where
  wideToUtf8 : WName → List UInt8
  getFileIndex : WName → UInt64

/-- `InternalDir`: `listing` is what a search of `search_path` returns, `found` the name
`find_data` holds, and `pending` the names FindNextFileW gives after it. -/
structure InternalDir where
  path : WName
  listing : List WName
  found : WName
  pending : List WName
  first : Bool
  endReached : Bool
  currentPosition : Int
  deriving DecidableEq, Repr

/-- `\\?\`, the extended-length prefix. -/
def extendedPrefix : WName := [92, 92, 63, 92]

/-- `prepare_dir_path`. -/
def prepareDirPath (path : WName) : WName :=
  if extendedPrefix.isPrefixOf path then path else extendedPrefix ++ path

/-- `opendir` of the directory at `widePath`, once the path has passed its checks, whose search
gives `listing`: FindFirstFileW finds nothing in an empty listing, reported as ENOENT. -/
def opendir (widePath : WName) (listing : List WName) : Except Errno InternalDir :=
  match listing with
  | [] => .error .ENOENT
  | found :: pending => .ok
    { path := prepareDirPath widePath
      listing := listing
      found := found
      pending := pending
      first := true
      endReached := false
      currentPosition := 0 }

def isDotEntry (name : WName) : Bool := name == [46] || name == [46, 46]

/-- The loop of `readdir` once `find_data` holds `found`, with `pending` still to come: "." and
".." are passed over to the next name FindNextFileW gives, or to the end; a name that does not
convert to UTF-8 or does not fit `d_name` ends the call with null and ENAMETOOLONG; any other is
returned, and counted in `current_position`. -/
def readdirLoop (env : Env) : InternalDir → WName → List WName →
    Option Dirent × InternalDir × Option Errno
  | d, found, pending =>
    let d := { d with found := found, pending := pending, first := false }
    if isDotEntry found then
      match pending with
      | [] => (none, { d with endReached := true }, none)
      | next :: rest => readdirLoop env d next rest
    else
      let utf8Filename := env.wideToUtf8 found
      if utf8Filename.isEmpty ∧ !found.isEmpty then (none, d, some .ENAMETOOLONG)
      else if filenameMax ≤ utf8Filename.length then (none, d, some .ENAMETOOLONG)
      else (some ⟨env.getFileIndex (d.path ++ [92] ++ found), utf8Filename⟩,
        { d with currentPosition := d.currentPosition + 1 }, none)

/-- `readdir`: null once the end is reached. Otherwise the loop runs from the name the last search
left in `find_data` where `first` is set, and from the next name FindNextFileW gives where it is
not; at the end of the directory it returns null and sets `end_reached`. -/
def readdir (env : Env) (d : InternalDir) : Option Dirent × InternalDir × Option Errno :=
  if d.endReached then (none, d, none)
  else if d.first then readdirLoop env d d.found d.pending
  else
    match d.pending with
    | [] => (none, { d with endReached := true }, none)
    | next :: rest => readdirLoop env d next rest

/-- `rewinddir`: a new search from the first name. -/
def rewinddir (d : InternalDir) : InternalDir × Option Errno :=
  match d.listing with
  | [] => (d, some .ENOENT)
  | found :: pending =>
    ({ d with
        found := found
        pending := pending
        first := true
        endReached := false
        currentPosition := 0 }, none)

def telldir (d : InternalDir) : Int :=
  if d.endReached then -1 else d.currentPosition

/-- The names `readdir` may still visit: those FindNextFileW has yet to give, and the one
`find_data` holds while `first` is set. -/
def InternalDir.left (d : InternalDir) : Nat := d.pending.length + if d.first then 1 else 0

theorem readdirLoop_frame (env : Env) (d : InternalDir) (found : WName) (pending : List WName) :
    let r := readdirLoop env d found pending
    r.2.1.path = d.path ∧ r.2.1.listing = d.listing ∧ r.2.1.first = false ∧
      r.2.1.pending.length ≤ pending.length ∧
      r.2.1.currentPosition = d.currentPosition + if r.1.isSome then 1 else 0 := by
  induction pending generalizing d found with
  | nil =>
    unfold readdirLoop
    dsimp only
    split_ifs <;> simp_all
  | cons next rest ih =>
    unfold readdirLoop
    dsimp only
    by_cases dot : isDotEntry found = true
    · obtain ⟨path, listing, first, shorter, counted⟩ :=
        ih { d with found := found, pending := next :: rest, first := false } next
      simp only [dot, if_true]
      exact ⟨path, listing, first, Nat.le_succ_of_le shorter, counted⟩
    · split_ifs <;> simp_all

theorem readdir_left_lt (env : Env) {d : InternalDir} (returned : (readdir env d).1.isSome) :
    (readdir env d).2.1.left < d.left := by
  unfold readdir at returned ⊢
  by_cases ended : d.endReached = true
  · simp [ended] at returned
  · simp only [ended, Bool.false_eq_true, if_false] at returned ⊢
    cases first : d.first
    · simp only [first, Bool.false_eq_true, if_false] at returned ⊢
      cases pending : d.pending with
      | nil => simp [pending] at returned
      | cons next rest =>
        obtain ⟨-, -, cleared, shorter, -⟩ := readdirLoop_frame env d next rest
        simp only [InternalDir.left, cleared, Bool.false_eq_true, if_false, pending, List.length_cons]
        omega
    · obtain ⟨-, -, cleared, shorter, -⟩ := readdirLoop_frame env d d.found d.pending
      simp only [first, if_true, InternalDir.left, cleared, Bool.false_eq_true, if_false]
      omega

theorem readdir_frame (env : Env) (d : InternalDir) :
    (readdir env d).2.1.path = d.path ∧ (readdir env d).2.1.listing = d.listing ∧
      (readdir env d).2.1.currentPosition =
        d.currentPosition + if (readdir env d).1.isSome then 1 else 0 := by
  by_cases ended : d.endReached = true
  · simp [readdir, ended]
  by_cases first : d.first = true
  · obtain ⟨path, listing, -, -, counted⟩ := readdirLoop_frame env d d.found d.pending
    simpa [readdir, ended, first] using And.intro path (And.intro listing counted)
  cases pending : d.pending with
  | nil => simp [readdir, ended, first, pending]
  | cons next rest =>
    obtain ⟨path, listing, -, -, counted⟩ := readdirLoop_frame env d next rest
    simpa [readdir, ended, first, pending] using And.intro path (And.intro listing counted)

/-- `while (readdir(dirp) != nullptr);`: `readdir` until it returns null. -/
def readUntilNull (env : Env) (d : InternalDir) : InternalDir × Option Errno :=
  match read : readdir env d with
  | (none, d', e) => (d', e)
  | (some _, d', e) =>
    have fewer : d'.left < d.left := by
      have := readdir_left_lt env (show (readdir env d).1.isSome by simp [read])
      simpa [read] using this
    let rest := readUntilNull env d'
    (rest.1, rest.2.or e)
termination_by d.left

theorem readUntilNull_of_none (env : Env) {d d' : InternalDir} {e : Option Errno}
    (read : readdir env d = (none, d', e)) : readUntilNull env d = (d', e) := by
  rw [readUntilNull]
  split <;> simp_all

theorem readUntilNull_of_some (env : Env) {d d' : InternalDir} {entry : Dirent} {e : Option Errno}
    (read : readdir env d = (some entry, d', e)) :
    readUntilNull env d = ((readUntilNull env d').1, (readUntilNull env d').2.or e) := by
  rw [readUntilNull]
  split <;> simp_all

/-- The loop of `seekdir` past a rewind: `loc` calls of `readdir`, stopped with EINVAL at the
first null. -/
def seekForward (env : Env) : Nat → InternalDir → InternalDir × Option Errno
  | 0, d => (d, none)
  | k + 1, d =>
    match readdir env d with
    | (none, d', _) => (d', some .EINVAL)
    | (some _, d', e) =>
      let rest := seekForward env k d'
      (rest.1, rest.2.or e)

def readdirs (env : Env) : Nat → InternalDir → List (Option Dirent) × InternalDir
  | 0, d => ([], d)
  | n + 1, d =>
    let first := readdir env d
    let rest := readdirs env n first.2.1
    (first.1 :: rest.1, rest.2)

def readdirErrnos (env : Env) : Nat → InternalDir → List (Option Errno)
  | 0, _ => []
  | n + 1, d => (readdir env d).2.2 :: readdirErrnos env n (readdir env d).2.1

/-- `seekdir`: 0 rewinds, -1 reads to the end, a larger `loc` rewinds and reads `loc` entries;
any other is EINVAL. -/
def seekdir (env : Env) (d : InternalDir) (loc : Int) : InternalDir × Option Errno :=
  if loc = 0 then rewinddir d
  else if loc = -1 then readUntilNull env d
  else if 0 < loc then
    let rewound := rewinddir d
    let sought := seekForward env loc.toNat rewound.1
    (sought.1, sought.2.or rewound.2)
  else (d, some .EINVAL)

end Asg.Windows
