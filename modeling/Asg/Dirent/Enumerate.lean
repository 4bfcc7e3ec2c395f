import Asg.Dirent.Seek

/-! Every run of `readdir` from a DIR that has not reached the end. The reads return, in order,
what `readdir` makes of each name ahead but "." and "..": its entry, or null for a name it
rejects. Then they return null. `current_position` counts the entries returned. `rewinddir`
takes any reachable DIR back to the one `opendir` made; over a directory whose names are all
accepted, `seekdir` lands on the position it is given, and past the end with EINVAL. -/

set_option autoImplicit false

namespace Asg.Windows

/-- What `readdir` makes of a name it does not pass over, in the directory at `path`: its entry,
or null where the name does not convert to UTF-8 or does not fit `d_name`. -/
def readResult (env : Env) (path name : WName) : Option Dirent :=
  let utf8Filename := env.wideToUtf8 name
  if utf8Filename.isEmpty ∧ !name.isEmpty then none
  else if filenameMax ≤ utf8Filename.length then none
  else some ⟨env.getFileIndex (path ++ [92] ++ name), utf8Filename⟩

def shownNames (l : List WName) : List WName := l.filter fun name => !isDotEntry name

theorem readResult_accepted {env : Env} {name : WName} (accepted : Accepted env name)
    (path : WName) : readResult env path name = some (entryOf env path name) := by
  simp only [readResult]
  rw [if_neg accepted.1, if_neg (Nat.not_le.2 accepted.2)]
  rfl

theorem shownNames_passed {l : List WName} (passed : ∀ n ∈ l, isDotEntry n = true) :
    shownNames l = [] :=
  List.filter_eq_nil_iff.2 fun n member => by simp [passed n member]

theorem shownNames_split {dots : List WName} (passed : ∀ n ∈ dots, isDotEntry n = true)
    {x : WName} (shown : isDotEntry x = false) (after : List WName) :
    shownNames (dots ++ x :: after) = x :: shownNames after := by
  simpa [shownNames, List.filter_append, shown] using passed

theorem shownCount_eq_length (l : List WName) : shownCount l = (shownNames l).length :=
  List.countP_eq_length_filter _ _

section
variable (env : Env)

theorem readdirLoop_next {dots : List WName} (passed : ∀ n ∈ dots, isDotEntry n = true)
    {x : WName} (shown : isDotEntry x = false) (after : List WName) :
    ∀ (d : InternalDir) (y : WName) (rest : List WName), y :: rest = dots ++ x :: after →
      readdirLoop env d y rest = (readResult env d.path x, { d with
        found := x
        pending := after
        first := false
        currentPosition := d.currentPosition + if (readResult env d.path x).isSome then 1 else 0 },
        if (readResult env d.path x).isSome then none else some .ENAMETOOLONG) := by
  induction dots with
  | nil =>
    intro d y rest split
    obtain ⟨rfl, rfl⟩ := List.cons.inj split
    unfold readdirLoop
    simp only [shown, Bool.false_eq_true, if_false, readResult]
    split_ifs <;> simp_all
  | cons z dots ih =>
    intro d y rest split
    rw [List.cons_append] at split
    obtain ⟨rfl, rfl⟩ := List.cons.inj split
    unfold readdirLoop
    simp only [passed y (List.mem_cons_self _ _), if_true]
    cases split' : dots ++ x :: after with
    | nil => simp at split'
    | cons next rest =>
      exact ih (fun n member => passed n (List.mem_cons_of_mem _ member)) _ next rest split'.symm

@[simp] theorem readdir_ended {d : InternalDir} (ended : d.endReached = true) :
    readdir env d = (none, d, none) := by
  simp [readdir, ended]

theorem readdirs_ended (n : Nat) {d : InternalDir} (ended : d.endReached = true) :
    readdirs env n d = (List.replicate n none, d) := by
  induction n with
  | zero => rfl
  | succ n ih => simp [readdirs, readdir_ended env ended, ih, List.replicate_succ]

theorem readdirErrnos_ended (n : Nat) {d : InternalDir} (ended : d.endReached = true) :
    readdirErrnos env n d = List.replicate n none := by
  induction n with
  | zero => rfl
  | succ n ih => simp [readdirErrnos, readdir_ended env ended, ih, List.replicate_succ]

theorem readdir_next {d : InternalDir} (open_ : d.endReached = false) {dots : List WName}
    {x : WName} {after : List WName} (ahead : d.ahead = dots ++ x :: after)
    (passed : ∀ n ∈ dots, isDotEntry n = true) (shown : isDotEntry x = false) :
    readdir env d = (readResult env d.path x, { d with
      found := x
      pending := after
      first := false
      currentPosition := d.currentPosition + if (readResult env d.path x).isSome then 1 else 0 },
      if (readResult env d.path x).isSome then none else some .ENAMETOOLONG) := by
  unfold readdir
  rw [if_neg (by simp [open_])]
  cases first : d.first
  · simp only [InternalDir.ahead, first, Bool.false_eq_true, if_false] at ahead ⊢
    rw [ahead]
    cases split : dots ++ x :: after with
    | nil => simp at split
    | cons next rest => exact readdirLoop_next env passed shown after d next rest split.symm
  · simp only [InternalDir.ahead, first, if_true] at ahead ⊢
    exact readdirLoop_next env passed shown after d _ _ ahead

theorem readdirLoop_exhausted (d : InternalDir) (y : WName) (rest : List WName)
    (passed : ∀ n ∈ y :: rest, isDotEntry n = true) :
    (readdirLoop env d y rest).1 = none ∧ (readdirLoop env d y rest).2.1.endReached = true ∧
      (readdirLoop env d y rest).2.2 = none := by
  induction rest generalizing d y with
  | nil =>
    unfold readdirLoop
    simp [passed y (List.mem_cons_self _ _)]
  | cons next rest ih =>
    unfold readdirLoop
    simp only [passed y (List.mem_cons_self _ _), if_true]
    exact ih _ next fun n member => passed n (List.mem_cons_of_mem _ member)

theorem readdir_exhausted {d : InternalDir} (open_ : d.endReached = false)
    (passed : ∀ n ∈ d.ahead, isDotEntry n = true) :
    (readdir env d).1 = none ∧ (readdir env d).2.1.endReached = true ∧ (readdir env d).2.2 = none := by
  unfold readdir
  rw [if_neg (by simp [open_])]
  cases first : d.first
  · simp only [InternalDir.ahead, first, Bool.false_eq_true, if_false] at passed ⊢
    cases pending : d.pending with
    | nil => exact ⟨rfl, rfl, rfl⟩
    | cons next rest => exact readdirLoop_exhausted env d next rest (pending ▸ passed)
  · simp only [InternalDir.ahead, first, if_true] at passed ⊢
    exact readdirLoop_exhausted env d _ _ passed

theorem readdir_cases {d : InternalDir} (open_ : d.endReached = false) :
    shownNames d.ahead = [] ∧ (readdir env d).1 = none ∧ (readdir env d).2.1.endReached = true ∧
      (readdir env d).2.2 = none ∨
    ∃ x rest, shownNames d.ahead = x :: rest ∧ (readdir env d).1 = readResult env d.path x ∧
      (readdir env d).2.1.endReached = false ∧ (readdir env d).2.1.path = d.path ∧
      shownNames (readdir env d).2.1.ahead = rest ∧
      (readdir env d).2.1.currentPosition =
        d.currentPosition + (if (readResult env d.path x).isSome then 1 else 0) ∧
      (readdir env d).2.2 = if (readResult env d.path x).isSome then none else some .ENAMETOOLONG := by
  rcases passed_or_shown d.ahead with passed | ⟨dots, x, after, split, passed, shown⟩
  · exact .inl ⟨shownNames_passed passed, readdir_exhausted env open_ passed⟩
  · rw [readdir_next env open_ split passed shown]
    exact .inr ⟨x, shownNames after, by rw [split, shownNames_split passed shown], rfl, open_, rfl,
      by simp [InternalDir.ahead], rfl, rfl⟩

theorem take_append_replicate {α : Type} (l : List α) (a : α) {m n : Nat} (enough : n ≤ m) :
    (l ++ List.replicate m a).take n = (l ++ List.replicate n a).take n := by
  simp only [List.take_append_eq_append_take, List.take_replicate]
  congr 2
  omega

theorem readdirs_results (n : Nat) {d : InternalDir} (open_ : d.endReached = false) :
    (readdirs env n d).1 =
      ((shownNames d.ahead).map (readResult env d.path) ++ List.replicate n none).take n ∧
    readdirErrnos env n d = ((shownNames d.ahead).map (fun x =>
      if (readResult env d.path x).isSome then none else some Errno.ENAMETOOLONG) ++
        List.replicate n none).take n := by
  induction n generalizing d with
  | zero => exact ⟨rfl, rfl⟩
  | succ n ih =>
    rcases readdir_cases env open_ with ⟨nothing, null, ended, none⟩ |
      ⟨x, rest, ahead, result, open', path, ahead', -, errno⟩
    · simp [readdirs, readdirErrnos, null, none, readdirs_ended env n ended,
        readdirErrnos_ended env n ended, nothing, List.replicate_succ]
    · simp only [readdirs, readdirErrnos, result, errno, ih open', path, ahead', ahead,
        List.map_cons, List.cons_append, List.take_succ_cons,
        take_append_replicate _ _ (Nat.le_succ n), and_self]

theorem readdirs_within {n : Nat} {d : InternalDir} (open_ : d.endReached = false)
    (within : n ≤ (shownNames d.ahead).length) :
    (readdirs env n d).2.endReached = false ∧ (readdirs env n d).2.path = d.path ∧
      shownNames (readdirs env n d).2.ahead = (shownNames d.ahead).drop n ∧
      (readdirs env n d).2.currentPosition = d.currentPosition +
        ((shownNames d.ahead).take n).countP fun x => (readResult env d.path x).isSome := by
  induction n generalizing d with
  | zero => simp [readdirs, open_]
  | succ n ih =>
    rcases readdir_cases env open_ with ⟨nothing, -⟩ |
      ⟨x, rest, ahead, -, open', path, ahead', counted, -⟩
    · simp [nothing] at within
    · rw [ahead] at within ⊢
      obtain ⟨stillOpen, samePath, after, position⟩ :=
        ih open' (by rw [ahead']; simpa using within)
      simp only [readdirs]
      refine ⟨stillOpen, samePath.trans path, by rw [after, ahead']; rfl, ?_⟩
      rw [position, counted, path, ahead']
      by_cases some : (readResult env d.path x).isSome = true
      · simp [List.countP_cons, some]
        omega
      · simp [List.countP_cons, some]

theorem readdirs_past {n : Nat} {d : InternalDir} (open_ : d.endReached = false)
    (past : (shownNames d.ahead).length < n) : (readdirs env n d).2.endReached = true := by
  induction n generalizing d with
  | zero => omega
  | succ n ih =>
    rcases readdir_cases env open_ with ⟨-, -, ended, -⟩ | ⟨x, rest, ahead, -, open', -, ahead', -⟩
    · simp [readdirs, readdirs_ended env n ended, ended]
    · rw [ahead] at past
      exact ih open' (by rw [ahead']; simpa using past)

theorem rewinddir_frame (d : InternalDir) :
    (rewinddir d).1.path = d.path ∧ (rewinddir d).1.listing = d.listing := by
  unfold rewinddir
  split <;> exact ⟨rfl, rfl⟩

theorem readUntilNull_frame (d : InternalDir) :
    (readUntilNull env d).1.path = d.path ∧ (readUntilNull env d).1.listing = d.listing := by
  induction d using readUntilNull.induct env with
  | case1 d d' e read =>
    have frame := readdir_frame env d
    rw [read] at frame
    rw [readUntilNull_of_none env read]
    exact ⟨frame.1, frame.2.1⟩
  | case2 d entry d' e read _ ih =>
    have frame := readdir_frame env d
    rw [read] at frame
    rw [readUntilNull_of_some env read]
    exact ⟨ih.1.trans frame.1, ih.2.trans frame.2.1⟩

theorem seekForward_frame (k : Nat) (d : InternalDir) :
    (seekForward env k d).1.path = d.path ∧ (seekForward env k d).1.listing = d.listing := by
  induction k generalizing d with
  | zero => exact ⟨rfl, rfl⟩
  | succ k ih =>
    have frame := readdir_frame env d
    unfold seekForward
    split
    case _ d' e read =>
      rw [read] at frame
      exact ⟨frame.1, frame.2.1⟩
    case _ d' e read =>
      rw [read] at frame
      exact ⟨(ih d').1.trans frame.1, (ih d').2.trans frame.2.1⟩

theorem seekdir_frame (d : InternalDir) (loc : Int) :
    (seekdir env d loc).1.path = d.path ∧ (seekdir env d loc).1.listing = d.listing := by
  unfold seekdir
  split_ifs
  · exact rewinddir_frame d
  · exact readUntilNull_frame env d
  · obtain ⟨path, listing⟩ := rewinddir_frame d
    obtain ⟨path', listing'⟩ := seekForward_frame env loc.toNat (rewinddir d).1
    exact ⟨path'.trans path, listing'.trans listing⟩
  · exact ⟨rfl, rfl⟩

theorem Reach.frame {path : WName} {L : List WName} {d : InternalDir}
    (reach : Reach env path L d) : d.path = prepareDirPath path ∧ d.listing = L := by
  induction reach with
  | opened ok =>
    unfold opendir at ok
    split at ok
    · cases ok
    · cases ok
      exact ⟨rfl, rfl⟩
  | read _ ih => exact ⟨(readdir_frame env _).1.trans ih.1, (readdir_frame env _).2.1.trans ih.2⟩
  | rewound _ ih => exact ⟨(rewinddir_frame _).1.trans ih.1, (rewinddir_frame _).2.trans ih.2⟩
  | sought loc _ ih =>
    exact ⟨(seekdir_frame env _ loc).1.trans ih.1, (seekdir_frame env _ loc).2.trans ih.2⟩

theorem rewinddir_reach {path : WName} {L : List WName} {d d₀ : InternalDir}
    (reach : Reach env path L d) (opened : opendir path L = .ok d₀) : rewinddir d = (d₀, none) := by
  obtain ⟨samePath, sameListing⟩ := reach.frame env
  unfold opendir at opened
  split at opened
  · cases opened
  · next found pending =>
    cases opened
    unfold rewinddir
    rw [sameListing]
    cases d
    simp_all

theorem mem_shownNames {l : List WName} {x : WName} :
    x ∈ shownNames l ↔ x ∈ l ∧ isDotEntry x = false := by
  simp [shownNames]

theorem readdir_served {d : InternalDir} {x : WName}
    (result : (readdir env d).1 = readResult env d.path x)
    (errno : (readdir env d).2.2 = if (readResult env d.path x).isSome then none else some .ENAMETOOLONG)
    (served : (readResult env d.path x).isSome = true) :
    ∃ entry, readdir env d = (some entry, (readdir env d).2.1, none) := by
  obtain ⟨entry, some⟩ := Option.isSome_iff_exists.1 served
  exact ⟨entry, Prod.ext (result.trans some) (Prod.ext rfl (by simp [errno, some]))⟩

theorem seekForward_within {k : Nat} {d : InternalDir} (open_ : d.endReached = false)
    (served : ∀ x ∈ shownNames d.ahead, (readResult env d.path x).isSome = true)
    (within : k ≤ (shownNames d.ahead).length) :
    seekForward env k d = ((readdirs env k d).2, none) := by
  induction k generalizing d with
  | zero => rfl
  | succ k ih =>
    rcases readdir_cases env open_ with ⟨nothing, -⟩ |
      ⟨x, rest, ahead, result, open', path, ahead', -, errno⟩
    · simp [nothing] at within
    · obtain ⟨entry, read⟩ := readdir_served env result errno
        (served x (by simp [ahead]))
      have later := ih open' (fun y member => path ▸ served y (by simp [ahead, ← ahead', member]))
        (by rw [ahead']; rw [ahead] at within; simpa using within)
      generalize (readdir env d).2.1 = d' at read later
      rw [seekForward, read]
      simp only [readdirs, read, later, Option.or_none]

theorem seekForward_past {k : Nat} {d : InternalDir} (open_ : d.endReached = false)
    (served : ∀ x ∈ shownNames d.ahead, (readResult env d.path x).isSome = true)
    (past : (shownNames d.ahead).length < k) :
    (seekForward env k d).2 = some .EINVAL ∧ (seekForward env k d).1.endReached = true := by
  induction k generalizing d with
  | zero => omega
  | succ k ih =>
    rcases readdir_cases env open_ with ⟨-, null, ended, -⟩ |
      ⟨x, rest, ahead, result, open', path, ahead', -, errno⟩
    · have read : readdir env d = (none, (readdir env d).2.1, (readdir env d).2.2) := Prod.ext null rfl
      rw [seekForward, read]
      exact ⟨rfl, ended⟩
    · obtain ⟨entry, read⟩ := readdir_served env result errno
        (served x (by simp [ahead]))
      obtain ⟨einval, ended⟩ := ih open'
        (fun y member => path ▸ served y (by simp [ahead, ← ahead', member]))
        (by rw [ahead']; rw [ahead] at past; simpa using past)
      rw [seekForward, read]
      exact ⟨by simpa using einval, ended⟩

theorem readUntilNull_served {d : InternalDir}
    (served : ∀ x ∈ shownNames d.ahead, (readResult env d.path x).isSome = true) :
    (readUntilNull env d).1.endReached = true ∧ (readUntilNull env d).2 = none := by
  induction d using readUntilNull.induct env with
  | case1 d d' e read =>
    rw [readUntilNull_of_none env read]
    cases open_ : d.endReached
    · rcases readdir_cases env open_ with ⟨-, -, ended, errno⟩ | ⟨x, rest, ahead, result, -⟩
      · rw [read] at ended errno
        exact ⟨ended, errno⟩
      · have some := served x (by simp [ahead])
        rw [read] at result
        simp [← result] at some
    · rw [readdir_ended env open_] at read
      cases read
      exact ⟨open_, rfl⟩
  | case2 d entry d' e read _ ih =>
    rw [readUntilNull_of_some env read]
    cases open_ : d.endReached
    · rcases readdir_cases env open_ with ⟨-, null, -⟩ |
        ⟨x, rest, ahead, result, -, path, ahead', -, errno⟩
      · rw [read] at null
        cases null
      · rw [read] at path ahead' errno result
        simp only at path ahead' errno result
        obtain ⟨ended, none⟩ := ih fun y member =>
          path ▸ served y (by simp [ahead, ← ahead', member])
        simp [ended, none, errno, ← result]
    · rw [readdir_ended env open_] at read
      cases read

end

/-- Every run of reads from a DIR that has not reached the end: the `n` reads return, in order,
what `readdir` makes of each name ahead but "." and "..", an entry, or null with ENAMETOOLONG for
a name it rejects; then null with no errno once those are used up. While they last `telldir`
counts the entries returned; after them it is -1. -/
theorem readdirs_enumerate (env : Env) (n : Nat) {d : InternalDir} (open_ : d.endReached = false) :
    (readdirs env n d).1 =
        ((shownNames d.ahead).map (readResult env d.path) ++ List.replicate n none).take n ∧
      readdirErrnos env n d = ((shownNames d.ahead).map (fun x =>
        if (readResult env d.path x).isSome then none else some Errno.ENAMETOOLONG) ++
          List.replicate n none).take n ∧
      telldir (readdirs env n d).2 = if n ≤ (shownNames d.ahead).length then
          d.currentPosition +
            ((shownNames d.ahead).take n).countP fun x => (readResult env d.path x).isSome
        else -1 := by
  refine ⟨(readdirs_results env n open_).1, (readdirs_results env n open_).2, ?_⟩
  split_ifs with within
  · obtain ⟨stillOpen, -, -, position⟩ := readdirs_within env open_ within
    simp [telldir, stillOpen, position]
  · simp [telldir, readdirs_past env open_ (Nat.lt_of_not_le within)]

set_option maxRecDepth 10000 in
theorem readdirs_enumerate_longNames :
    let d : InternalDir := ⟨[67, 58], longNameListing, [46], longNameListing.tail, true, false, 0⟩
    d.endReached = false ∧
      ((readdirs ucs2Env 4 d).1 =
          ((shownNames d.ahead).map (readResult ucs2Env d.path) ++ List.replicate 4 none).take 4 ∧
        readdirErrnos ucs2Env 4 d = ((shownNames d.ahead).map (fun x =>
          if (readResult ucs2Env d.path x).isSome then none else some Errno.ENAMETOOLONG) ++
            List.replicate 4 none).take 4 ∧
        telldir (readdirs ucs2Env 4 d).2 = if 4 ≤ (shownNames d.ahead).length then
            d.currentPosition +
              ((shownNames d.ahead).take 4).countP fun x => (readResult ucs2Env d.path x).isSome
          else -1) :=
  ⟨rfl, readdirs_enumerate ucs2Env 4 rfl⟩

section
variable (env : Env)

theorem opendir_ok {path : WName} {L : List WName} {d₀ : InternalDir}
    (opened : opendir path L = .ok d₀) :
    d₀.endReached = false ∧ d₀.ahead = L ∧ d₀.path = prepareDirPath path ∧
      d₀.currentPosition = 0 := by
  unfold opendir at opened
  split at opened
  · cases opened
  · cases opened
    exact ⟨rfl, rfl, rfl, rfl⟩

theorem Reach.opened_ok {path : WName} {L : List WName} {d : InternalDir}
    (reach : Reach env path L d) : ∃ d₀, opendir path L = .ok d₀ := by
  induction reach with
  | opened ok => exact ⟨_, ok⟩
  | read _ ih => exact ih
  | rewound _ ih => exact ih
  | sought _ _ ih => exact ih

/-- From every reachable DIR, `rewinddir` starts the enumeration over, whatever the calls
before it did: it writes no errno, `telldir` says 0, and the reads after it return what
`readdir` makes of each name of the listing but "." and "..", in order, then null. -/
theorem rewinddir_restarts {path : WName} {L : List WName} {d : InternalDir}
    (reach : Reach env path L d) :
    (rewinddir d).2 = none ∧ telldir (rewinddir d).1 = 0 ∧
      ∀ n, (readdirs env n (rewinddir d).1).1 =
        ((shownNames L).map (readResult env (prepareDirPath path)) ++ List.replicate n none).take n := by
  obtain ⟨d₀, opened⟩ := reach.opened_ok env
  obtain ⟨open₀, ahead₀, path₀, zero₀⟩ := opendir_ok opened
  rw [rewinddir_reach env reach opened]
  refine ⟨rfl, by simp [telldir, open₀, zero₀], fun n => ?_⟩
  rw [(readdirs_results env n open₀).1, ahead₀, path₀]

theorem rewinddir_restarts_longNames :
    let d : InternalDir := (seekdir ucs2Env
      ⟨prepareDirPath [67, 58], longNameListing, [46], longNameListing.tail, true, false, 0⟩ 2).1
    Reach ucs2Env [67, 58] longNameListing d ∧
      ((rewinddir d).2 = none ∧ telldir (rewinddir d).1 = 0 ∧
        ∀ n, (readdirs ucs2Env n (rewinddir d).1).1 =
          ((shownNames longNameListing).map (readResult ucs2Env (prepareDirPath [67, 58])) ++
            List.replicate n none).take n) :=
  ⟨.sought 2 (.opened rfl), rewinddir_restarts ucs2Env
    (.sought 2 (.opened rfl) : Reach ucs2Env [67, 58] longNameListing _)⟩

variable {env} {path : WName} {L : List WName}
  (sound : ∀ name ∈ L, isDotEntry name = false → Accepted env name)
include sound

theorem served_opened {d₀ : InternalDir} (opened : opendir path L = .ok d₀) :
    ∀ x ∈ shownNames d₀.ahead, (readResult env d₀.path x).isSome = true := by
  obtain ⟨-, ahead, -, -⟩ := opendir_ok opened
  intro x member
  rw [ahead, mem_shownNames] at member
  simp [readResult_accepted (sound x member.1 member.2)]

theorem seekdir_within {d d₀ : InternalDir} (reach : Reach env path L d)
    (opened : opendir path L = .ok d₀) {k : Nat} (within : k ≤ shownCount L) :
    seekdir env d k = ((readdirs env k d₀).2, none) := by
  obtain ⟨open₀, ahead₀, -, -⟩ := opendir_ok opened
  have rewound := rewinddir_reach env reach opened
  cases k with
  | zero => simp [seekdir, rewound, readdirs]
  | succ k =>
    have forward := seekForward_within env open₀ (served_opened sound opened)
      (show k + 1 ≤ (shownNames d₀.ahead).length by rwa [ahead₀, ← shownCount_eq_length])
    have positive : (0 : Int) < ((k + 1 : Nat) : Int) := by omega
    simp only [seekdir, if_neg (Int.ne_of_gt positive), if_neg (by omega : ((k + 1 : Nat) : Int) ≠ -1),
      if_pos positive, rewound, Int.toNat_ofNat, forward, Option.or_none]

theorem seekdir_past {d d₀ : InternalDir} (reach : Reach env path L d)
    (opened : opendir path L = .ok d₀) {k : Nat} (past : shownCount L < k) :
    (seekdir env d k).2 = some .EINVAL ∧ (seekdir env d k).1.endReached = true := by
  obtain ⟨open₀, ahead₀, -, -⟩ := opendir_ok opened
  obtain ⟨einval, ended⟩ := seekForward_past env open₀ (served_opened sound opened)
    (show (shownNames d₀.ahead).length < k by rwa [ahead₀, ← shownCount_eq_length])
  have positive : (0 : Int) < (k : Int) := by omega
  simp only [seekdir, if_neg (Int.ne_of_gt positive), if_neg (by omega : (k : Int) ≠ -1),
    if_pos positive, rewinddir_reach env reach opened, Int.toNat_ofNat]
  exact ⟨by simpa using einval, ended⟩

theorem seekdir_end {d : InternalDir} (reach : Reach env path L d) :
    (seekdir env d (-1)).2 = none ∧ (seekdir env d (-1)).1.endReached = true := by
  simp only [seekdir, if_neg (by decide : (-1 : Int) ≠ 0), if_true]
  cases open_ : d.endReached
  · obtain ⟨before, whole, -⟩ := (reach.placed sound).ahead open_
    have served : ∀ x ∈ shownNames d.ahead, (readResult env d.path x).isSome = true := by
      intro x member
      rw [mem_shownNames] at member
      simp [readResult_accepted (sound x (by simp [whole, member.1]) member.2)]
    exact (readUntilNull_served env served).symm
  · rw [readUntilNull_of_none env (readdir_ended env open_)]
    exact ⟨rfl, open_⟩

end

/-- Over a directory whose every name but "." and ".." `readdir` accepts, `seekdir` from any
reachable DIR lands where it is asked. To a position `k` up to the number of names shown, with no
errno: `telldir` says `k`, and the reads go on from the name after the `k`-th. Past them, with
EINVAL, at the end. To -1, at the end with no errno. -/
theorem seekdir_lands {env : Env} {path : WName} {L : List WName} {d : InternalDir}
    (sound : ∀ name ∈ L, isDotEntry name = false → Accepted env name)
    (reach : Reach env path L d) (k : Nat) :
    (k ≤ shownCount L → (seekdir env d k).2 = none ∧ telldir (seekdir env d k).1 = k ∧
      ∀ n, (readdirs env n (seekdir env d k).1).1 =
        (((shownNames L).drop k).map (fun x => some (entryOf env (prepareDirPath path) x)) ++
          List.replicate n none).take n) ∧
    (shownCount L < k → (seekdir env d k).2 = some .EINVAL ∧ telldir (seekdir env d k).1 = -1 ∧
      ∀ n, (readdirs env n (seekdir env d k).1).1 = List.replicate n none) ∧
    ((seekdir env d (-1)).2 = none ∧ telldir (seekdir env d (-1)).1 = -1 ∧
      ∀ n, (readdirs env n (seekdir env d (-1)).1).1 = List.replicate n none) := by
  obtain ⟨d₀, opened⟩ := reach.opened_ok env
  obtain ⟨open₀, ahead₀, path₀, zero₀⟩ := opendir_ok opened
  refine ⟨fun within => ?_, fun past => ?_, ?_⟩
  · rw [seekdir_within sound reach opened within]
    have len : k ≤ (shownNames d₀.ahead).length := by rwa [ahead₀, ← shownCount_eq_length]
    obtain ⟨stillOpen, samePath, after, position⟩ := readdirs_within env open₀ len
    have counted : ((shownNames d₀.ahead).take k).countP
        (fun x => (readResult env d₀.path x).isSome) = k := by
      rw [List.countP_eq_length.2 fun x member =>
        served_opened sound opened x (List.mem_of_mem_take member)]
      simp [len]
    refine ⟨rfl, by simp [telldir, stillOpen, position, zero₀, counted], fun n => ?_⟩
    rw [(readdirs_results env n stillOpen).1, after, samePath, ahead₀, path₀]
    congr 2
    refine List.map_congr_left fun x member => ?_
    have shown := mem_shownNames.1 (List.mem_of_mem_drop member)
    exact readResult_accepted (sound x shown.1 shown.2) _
  · obtain ⟨einval, ended⟩ := seekdir_past sound reach opened past
    exact ⟨einval, by simp [telldir, ended], fun n => by rw [readdirs_ended env n ended]⟩
  · obtain ⟨none, ended⟩ := seekdir_end sound reach
    exact ⟨none, by simp [telldir, ended], fun n => by rw [readdirs_ended env n ended]⟩

theorem seekdir_lands_twoNames :
    let d : InternalDir := (readdir ucs2Env
      ⟨prepareDirPath [67, 58], twoNameListing, [46], twoNameListing.tail, true, false, 0⟩).2.1
    (∀ name ∈ twoNameListing, isDotEntry name = false → Accepted ucs2Env name) ∧
      Reach ucs2Env [67, 58] twoNameListing d ∧
      (1 ≤ shownCount twoNameListing → (seekdir ucs2Env d 1).2 = none ∧
        telldir (seekdir ucs2Env d 1).1 = 1 ∧
        ∀ n, (readdirs ucs2Env n (seekdir ucs2Env d 1).1).1 =
          (((shownNames twoNameListing).drop 1).map
            (fun x => some (entryOf ucs2Env (prepareDirPath [67, 58]) x)) ++
              List.replicate n none).take n) ∧
      (shownCount twoNameListing < 1 → (seekdir ucs2Env d 1).2 = some .EINVAL ∧
        telldir (seekdir ucs2Env d 1).1 = -1 ∧
        ∀ n, (readdirs ucs2Env n (seekdir ucs2Env d 1).1).1 = List.replicate n none) ∧
      ((seekdir ucs2Env d (-1)).2 = none ∧ telldir (seekdir ucs2Env d (-1)).1 = -1 ∧
        ∀ n, (readdirs ucs2Env n (seekdir ucs2Env d (-1)).1).1 = List.replicate n none) :=
  ⟨by unfold Accepted; decide, .read (.opened rfl),
    seekdir_lands (by unfold Accepted; decide)
      (.read (.opened rfl) : Reach ucs2Env [67, 58] twoNameListing _) 1⟩

end Asg.Windows
