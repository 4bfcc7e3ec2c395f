import Asg.Dirent.Basic

/-! `seekdir(telldir())` over the DIR states a run reaches. Over a directory whose every name but
"." and ".." `readdir` accepts, a state is either the rewound one, or the one that last returned
the name `find_data` holds, with `current_position` counting the names shown up to it. Replaying
that many reads from a rewind lands on the same state, so the seek changes nothing. A name
`readdir` rejects gives null without reaching the end, and the replay stops there. -/

set_option autoImplicit false

namespace Asg.Windows

/-- A name `readdir` returns rather than rejects: its UTF-8 form is non-empty unless the name is,
and fits `d_name`. -/
def Accepted (env : Env) (name : WName) : Prop :=
  ¬ ((env.wideToUtf8 name).isEmpty = true ∧ (!name.isEmpty) = true) ∧
    (env.wideToUtf8 name).length < filenameMax

def shownCount (l : List WName) : Nat := l.countP fun name => !isDotEntry name

def entryOf (env : Env) (path name : WName) : Dirent :=
  ⟨env.getFileIndex (path ++ [92] ++ name), env.wideToUtf8 name⟩

/-- The names the next `readdir` looks at: from the one `find_data` holds where `first` is set,
from the next FindNextFileW gives where it is not. -/
def InternalDir.ahead (d : InternalDir) : List WName :=
  if d.first then d.found :: d.pending else d.pending

/-- The states of a DIR opened on the directory at `path` whose search gives `listing`, after any
calls of readdir, rewinddir and seekdir. -/
inductive Reach (env : Env) (path : WName) (listing : List WName) : InternalDir → Prop
  | opened {d : InternalDir} : opendir path listing = .ok d → Reach env path listing d
  | read {d : InternalDir} : Reach env path listing d → Reach env path listing (readdir env d).2.1
  | rewound {d : InternalDir} : Reach env path listing d → Reach env path listing (rewinddir d).1
  | sought {d : InternalDir} (loc : Int) : Reach env path listing d →
    Reach env path listing (seekdir env d loc).1

theorem shownCount_append (l l' : List WName) :
    shownCount (l ++ l') = shownCount l + shownCount l' := List.countP_append _ _ _

theorem shownCount_passed {dots : List WName} (passed : ∀ n ∈ dots, isDotEntry n = true) :
    shownCount dots = 0 :=
  List.countP_eq_zero.2 fun n member => by simp [passed n member]

theorem shownCount_cons_shown {x : WName} (shown : isDotEntry x = false) (l : List WName) :
    shownCount (x :: l) = shownCount l + 1 := by
  simp [shownCount, List.countP_cons, shown]

theorem passed_or_shown (l : List WName) : (∀ n ∈ l, isDotEntry n = true) ∨
    ∃ dots x after, l = dots ++ x :: after ∧ (∀ n ∈ dots, isDotEntry n = true) ∧
      isDotEntry x = false := by
  induction l with
  | nil => simp
  | cons y l ih =>
    cases dot : isDotEntry y
    · exact .inr ⟨[], y, l, rfl, by simp, dot⟩
    · rcases ih with passed | ⟨dots, x, after, rfl, passed, shown⟩
      · exact .inl fun n member => (List.mem_cons.1 member).elim (· ▸ dot) (passed n)
      · refine .inr ⟨y :: dots, x, after, rfl, fun n member => ?_, shown⟩
        exact (List.mem_cons.1 member).elim (· ▸ dot) (passed n)

section
variable (env : Env)

theorem readdirLoop_shown {dots : List WName} (passed : ∀ n ∈ dots, isDotEntry n = true)
    {x : WName} (shown : isDotEntry x = false) (accepted : Accepted env x) (after : List WName) :
    ∀ (d : InternalDir) (y : WName) (rest : List WName), y :: rest = dots ++ x :: after →
      readdirLoop env d y rest = (some (entryOf env d.path x), { d with
        found := x
        pending := after
        first := false
        currentPosition := d.currentPosition + 1 }, none) := by
  induction dots with
  | nil =>
    intro d y rest split
    obtain ⟨rfl, rfl⟩ := List.cons.inj split
    unfold readdirLoop
    simp only [shown, Bool.false_eq_true, if_false]
    rw [if_neg accepted.1, if_neg (Nat.not_le.2 accepted.2)]
    rfl
  | cons z dots ih =>
    intro d y rest split
    rw [List.cons_append] at split
    obtain ⟨rfl, rfl⟩ := List.cons.inj split
    have dot : isDotEntry y = true := passed y (List.mem_cons_self _ _)
    unfold readdirLoop
    simp only [dot, if_true]
    cases split' : dots ++ x :: after with
    | nil => simp at split'
    | cons next rest =>
      exact ih (fun n member => passed n (List.mem_cons_of_mem _ member)) _ next rest split'.symm

theorem readdirLoop_passed (d : InternalDir) (y : WName) (rest : List WName)
    (passed : ∀ n ∈ y :: rest, isDotEntry n = true) :
    (readdirLoop env d y rest).1 = none ∧ (readdirLoop env d y rest).2.1.endReached = true := by
  induction rest generalizing d y with
  | nil =>
    unfold readdirLoop
    simp [passed y (List.mem_cons_self _ _)]
  | cons next rest ih =>
    unfold readdirLoop
    simp only [passed y (List.mem_cons_self _ _), if_true]
    exact ih _ next fun n member => passed n (List.mem_cons_of_mem _ member)

theorem readdir_shown {d : InternalDir} (open_ : d.endReached = false) {dots : List WName}
    {x : WName} {after : List WName} (ahead : d.ahead = dots ++ x :: after)
    (passed : ∀ n ∈ dots, isDotEntry n = true) (shown : isDotEntry x = false)
    (accepted : Accepted env x) :
    readdir env d = (some (entryOf env d.path x), { d with
      found := x
      pending := after
      first := false
      currentPosition := d.currentPosition + 1 }, none) := by
  unfold readdir
  rw [if_neg (by simp [open_])]
  cases first : d.first
  · simp only [InternalDir.ahead, first, Bool.false_eq_true, if_false] at ahead ⊢
    rw [ahead]
    cases split : dots ++ x :: after with
    | nil => simp at split
    | cons next rest => exact readdirLoop_shown env passed shown accepted after d next rest split.symm
  · simp only [InternalDir.ahead, first, if_true] at ahead ⊢
    exact readdirLoop_shown env passed shown accepted after d _ _ ahead

theorem readdir_passed {d : InternalDir} (open_ : d.endReached = false)
    (passed : ∀ n ∈ d.ahead, isDotEntry n = true) :
    (readdir env d).2.1.endReached = true := by
  unfold readdir
  rw [if_neg (by simp [open_])]
  cases first : d.first
  · simp only [InternalDir.ahead, first, Bool.false_eq_true, if_false] at passed ⊢
    cases pending : d.pending with
    | nil => rfl
    | cons next rest => exact (readdirLoop_passed env d next rest (pending ▸ passed)).2
  · simp only [InternalDir.ahead, first, if_true] at passed ⊢
    exact (readdirLoop_passed env d _ _ passed).2

end

/-- Where a DIR over `L` stands unless it has reached the end: just rewound, or having last
returned the name `find_data` holds, after `before`, with `current_position` counting the names
shown up to it. -/
def Placed (L : List WName) (d : InternalDir) : Prop :=
  d.listing = L ∧ (d.endReached = false →
    d.first = true ∧ d.found :: d.pending = L ∧ d.currentPosition = 0 ∨
      d.first = false ∧ isDotEntry d.found = false ∧
        ∃ before, L = before ++ d.found :: d.pending ∧ d.currentPosition = shownCount before + 1)

section
variable {env : Env} {L : List WName}
  (sound : ∀ name ∈ L, isDotEntry name = false → Accepted env name)

theorem Placed.ahead {d : InternalDir} (placed : Placed L d) (open_ : d.endReached = false) :
    ∃ before, L = before ++ d.ahead ∧ d.currentPosition = shownCount before := by
  rcases placed.2 open_ with ⟨first, whole, zero⟩ | ⟨first, shown, before, whole, counted⟩
  · exact ⟨[], by simp [InternalDir.ahead, first, whole], by simp [zero, shownCount]⟩
  · refine ⟨before ++ [d.found], by simp [InternalDir.ahead, first, whole], ?_⟩
    rw [counted, shownCount_append, shownCount_cons_shown shown]
    simp [shownCount]

include sound

theorem Placed.read {d : InternalDir} (placed : Placed L d) : Placed L (readdir env d).2.1 := by
  have listing : (readdir env d).2.1.listing = L := (readdir_frame env d).2.1.trans placed.1
  cases open_ : d.endReached
  case true => simpa [readdir, open_] using placed
  case false =>
  obtain ⟨before, whole, counted⟩ := placed.ahead open_
  rcases passed_or_shown d.ahead with passed | ⟨dots, x, after, split, passed, shown⟩
  · exact ⟨listing, fun open' => by simp [readdir_passed env open_ passed] at open'⟩
  · have accepted := sound x (by simp [whole, split]) shown
    rw [readdir_shown env open_ split passed shown accepted]
    refine ⟨placed.1, fun _ => .inr ⟨rfl, shown, before ++ dots, by simp [whole, split], ?_⟩⟩
    simp [counted, shownCount_append, shownCount_passed passed]

omit sound in
theorem Placed.rewind {d : InternalDir} (placed : Placed L d) : Placed L (rewinddir d).1 := by
  unfold rewinddir
  split
  · exact placed
  · next found pending listing => exact ⟨placed.1, fun _ => .inl ⟨rfl, listing ▸ placed.1, rfl⟩⟩

theorem Placed.untilNull {d : InternalDir} (placed : Placed L d) :
    Placed L (readUntilNull env d).1 := by
  induction d using readUntilNull.induct env with
  | case1 d d' e read =>
    simpa [readUntilNull_of_none env read, read] using placed.read sound
  | case2 d entry d' e read _ ih =>
    rw [readUntilNull_of_some env read]
    exact ih (by simpa [read] using placed.read sound)

theorem Placed.forward (k : Nat) {d : InternalDir} (placed : Placed L d) :
    Placed L (seekForward env k d).1 := by
  induction k generalizing d with
  | zero => exact placed
  | succ k ih =>
    unfold seekForward
    have next := placed.read sound
    split
    case _ d' e read => simpa [read] using next
    case _ d' e read => exact ih (by simpa [read] using next)

theorem Placed.seek (loc : Int) {d : InternalDir} (placed : Placed L d) :
    Placed L (seekdir env d loc).1 := by
  unfold seekdir
  split_ifs
  · exact placed.rewind
  · exact placed.untilNull sound
  · exact placed.rewind.forward sound _
  · exact placed

theorem Reach.placed {path : WName} {d : InternalDir} (reach : Reach env path L d) :
    Placed L d := by
  induction reach with
  | opened ok =>
    unfold opendir at ok
    split at ok
    · cases ok
    · cases ok
      exact ⟨rfl, fun _ => .inl ⟨rfl, rfl, rfl⟩⟩
  | read _ placed => exact placed.read sound
  | rewound _ placed => exact placed.rewind
  | sought loc _ placed => exact placed.seek sound loc

end

/-- `std::wstring_convert<std::codecvt_utf8<wchar_t>>::to_bytes` for a 16-bit `wchar_t`, over the
UCS-2 range: each code unit in one to three bytes. -/
def ucs2ToUtf8 (name : WName) : List UInt8 := name.flatMap fun unit =>
  let c := unit.toNat
  if c < 128 then [c.toUInt8]
  else if c < 2048 then [(192 + c / 64).toUInt8, (128 + c % 64).toUInt8]
  else [(224 + c / 4096).toUInt8, (128 + c / 64 % 64).toUInt8, (128 + c % 64).toUInt8]

/-- The UCS-2 converter, and the file index 0 that `get_file_index` gives for a path it cannot
open. -/
def ucs2Env : Env := ⟨ucs2ToUtf8, fun _ => 0⟩

def twoNameListing : List WName := [[46], [46, 46], [97], [98]]

/-- ".", "..", "a", a name of 100 U+4E2D, and "b". The long name fits `cFileName` in UTF-16 but
takes 300 bytes in UTF-8, too many for `d_name`. -/
def longNameListing : List WName := [[46], [46, 46], [97], List.replicate 100 0x4E2D, [98]]

theorem seekForward_shown (env : Env) (x : WName) (after : List WName) (shown : isDotEntry x = false) :
    ∀ (before : List WName) (d : InternalDir), d.endReached = false →
      d.ahead = before ++ x :: after → (∀ n ∈ before ++ [x], isDotEntry n = false → Accepted env n) →
      seekForward env (shownCount before + 1) d = ({ d with
        found := x
        pending := after
        first := false
        currentPosition := d.currentPosition + shownCount before + 1 }, none) := by
  intro before
  obtain ⟨n, h⟩ : ∃ n, before.length = n := ⟨_, rfl⟩
  induction n using Nat.strong_induction_on generalizing before with
  | _ n ih =>
    intro d open_ ahead sound
    rcases passed_or_shown before with passed | ⟨dots, z, before', rfl, passed, shownZ⟩
    · rw [shownCount_passed passed, seekForward,
        readdir_shown env open_ ahead passed shown (sound x (by simp) shown)]
      simp [seekForward]
    · have ahead' : d.ahead = dots ++ z :: (before' ++ x :: after) := by simp [ahead]
      have count : shownCount (dots ++ z :: before') = shownCount before' + 1 := by
        rw [shownCount_append, shownCount_passed passed, shownCount_cons_shown shownZ, Nat.zero_add]
      rw [count, seekForward, readdir_shown env open_ ahead' passed shownZ (sound z (by simp) shownZ)]
      dsimp only
      rw [ih before'.length (by rw [← h]; simp; omega) before' rfl { d with
          found := z
          pending := before' ++ x :: after
          first := false
          currentPosition := d.currentPosition + 1 } open_ (by simp [InternalDir.ahead])
        fun n member => sound n (by simp at member ⊢; tauto)]
      simp only [Option.or_none, Prod.mk.injEq, and_true]
      congr 1
      push_cast
      omega

/-- Over a directory whose every name but "." and ".." `readdir` accepts, seeking to the position
telldir reports leaves every reachable DIR state as it was, and writes no errno. -/
theorem seekdir_telldir_of_accepted {env : Env} {path : WName} {L : List WName} {d : InternalDir}
    (sound : ∀ name ∈ L, isDotEntry name = false → Accepted env name) (reach : Reach env path L d) :
    seekdir env d (telldir d) = (d, none) := by
  have placed := reach.placed sound
  cases open_ : d.endReached
  case true =>
    have read : readdir env d = (none, d, none) := by simp [readdir, open_]
    simp only [telldir, open_, if_true, seekdir, show (-1 : Int) ≠ 0 by decide, if_false]
    exact readUntilNull_of_none env read
  case false =>
  rcases placed.2 open_ with ⟨first, whole, zero⟩ | ⟨first, shown, before, whole, counted⟩
  · have listing : d.listing = d.found :: d.pending := placed.1.trans whole.symm
    simp only [telldir, open_, Bool.false_eq_true, if_false, zero, seekdir, if_true, rewinddir,
      listing]
    cases d
    simp_all
  · have positive : (0 : Int) < shownCount before + 1 := by omega
    have count : ((shownCount before : Int) + 1).toNat = shownCount before + 1 := by omega
    simp only [telldir, open_, Bool.false_eq_true, if_false, counted, seekdir,
      show ((shownCount before : Int) + 1) ≠ 0 by omega,
      show ((shownCount before : Int) + 1) ≠ -1 by omega, positive, if_true, count, rewinddir]
    cases listing : d.listing with
    | nil => simp [placed.1.trans whole] at listing
    | cons found pending =>
      rw [seekForward_shown env d.found d.pending shown before _ rfl
        (by simp [InternalDir.ahead, ← listing, placed.1, whole])
        fun n member => sound n (by simp [whole] at member ⊢; tauto)]
      cases d
      simp_all

theorem seekdir_telldir_twoNames :
    let d : InternalDir := (readdir ucs2Env
      ⟨prepareDirPath [67, 58], twoNameListing, [46], twoNameListing.tail, true, false, 0⟩).2.1
    (∀ name ∈ twoNameListing, isDotEntry name = false → Accepted ucs2Env name) ∧
      Reach ucs2Env [67, 58] twoNameListing d ∧ telldir d = 1 ∧
      seekdir ucs2Env d (telldir d) = (d, none) :=
  ⟨by unfold Accepted; decide, .read (.opened rfl), rfl,
    seekdir_telldir_of_accepted (by unfold Accepted; decide)
      (.read (.opened rfl) : Reach ucs2Env [67, 58] twoNameListing _)⟩

set_option maxRecDepth 10000 in
/-- After three reads of that directory ("a", null for the long name, "b") telldir says 2. Seeking
there rewinds and replays readdir, which stops at the null the long name gives: telldir then says
1, and the next two reads return "b" and null where, without the seek, both return null. -/
theorem seekdir_telldir_replays_long_name :
    ∃ d, opendir [67, 58] longNameListing = .ok d ∧
      (readdirs ucs2Env 3 d).1.map (Option.map Dirent.dName) = [some [97], none, some [98]] ∧
      telldir (readdirs ucs2Env 3 d).2 = 2 ∧
      telldir (seekdir ucs2Env (readdirs ucs2Env 3 d).2 2).1 = 1 ∧
      (readdirs ucs2Env 2 (readdirs ucs2Env 3 d).2).1 = [none, none] ∧
      (readdirs ucs2Env 2 (seekdir ucs2Env (readdirs ucs2Env 3 d).2 2).1).1.map
        (Option.map Dirent.dName) = [some [98], none] :=
  ⟨_, rfl, by decide, by decide, by decide, by decide, by decide⟩

end Asg.Windows
