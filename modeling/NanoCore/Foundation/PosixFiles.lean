import Mathlib
import NanoCore.Foundation.KeyedTable
import NanoCore.Foundation.PythonText

/-!
A POSIX file system with symbolic links, and the calls of Python's `pathlib` on it:
`resolve`, `mkdir(parents=True, exist_ok=True)`, `read_text`, `write_text`, `exists`
and `iterdir`.  A file has one path: there are no hard links.  Permissions and the
length of names are not limited here.
-/

namespace NanoCore.Foundation.PosixFiles

open NanoCore.Foundation.KeyedTable
open NanoCore.Foundation.PythonText

/-- An absolute path by its names, the last one first. -/
abbrev Path := List Text

inductive Node where
  | file (bytes : ByteArray)
  | dir
  | link (target : Text)
  deriving DecidableEq

structure Entry where
  path : Path
  node : Node
  deriving DecidableEq

abbrev EntryTable := Table Path Entry Entry.path

/-- The root is a directory without an entry. -/
def nodeIn (entries : EntryTable) : Path → Option Node
  | [] => some .dir
  | name :: parent => (entries.find? (name :: parent)).map Entry.node

/-- What has an entry lies in a directory. -/
structure FileSystem where
  entries : EntryTable
  parent_isDir : ∀ name parent,
    nodeIn entries (name :: parent) ≠ none → nodeIn entries parent = some .dir

/-- The root alone. -/
def emptyFileSystem : FileSystem := ⟨.empty, nofun⟩

inductive FileError where
  | embeddedNull
  | symlinkLoop
  | notFound
  | notADirectory
  | isADirectory
  | fileExists
  | decode
  deriving DecidableEq, Repr

namespace FileSystem

def node? (fs : FileSystem) (path : Path) : Option Node := nodeIn fs.entries path

theorem nodeIn_put {entries : EntryTable} {name : Text} {parent path : Path} {node : Node} :
    nodeIn (entries.put ⟨name :: parent, node⟩) path =
      if path = name :: parent then some node else nodeIn entries path := by
  cases path with
  | nil => rw [if_neg (List.cons_ne_nil name parent).symm]; rfl
  | cons other rest =>
      show (Table.find? _ _).map Entry.node = _
      by_cases hsame : other :: rest = name :: parent
      · rw [if_pos hsame, hsame]
        exact congrArg (Option.map Entry.node) (Table.find?_put_self entries ⟨name :: parent, node⟩)
      · rw [if_neg hsame]
        exact congrArg (Option.map Entry.node) (Table.find?_put_of_ne entries hsame)

/-- A name in a directory, for what is not a directory itself. -/
def put (fs : FileSystem) (name : Text) (parent : Path) (node : Node)
    (hparent : fs.node? parent = some .dir) (hfree : fs.node? (name :: parent) ≠ some .dir) :
    FileSystem where
  entries := fs.entries.put ⟨name :: parent, node⟩
  parent_isDir := by
    intro other above habove
    rw [nodeIn_put] at habove ⊢
    have hself : parent ≠ name :: parent := fun h =>
      absurd (congrArg List.length h) (by simp)
    by_cases hsame : other :: above = name :: parent
    · obtain ⟨rfl, rfl⟩ := List.cons.inj hsame
      rw [if_neg hself]
      exact hparent
    · rw [if_neg hsame] at habove
      have hdir := fs.parent_isDir other above habove
      rw [if_neg]
      · exact hdir
      · rintro rfl
        exact hfree hdir

theorem node?_put {fs : FileSystem} {name : Text} {parent : Path} {node : Node}
    {hparent : fs.node? parent = some .dir} {hfree : fs.node? (name :: parent) ≠ some .dir}
    (path : Path) :
    (fs.put name parent node hparent hfree).node? path =
      if path = name :: parent then some node else fs.node? path := nodeIn_put

/-- `os.readlink`, where there is a link. -/
def readlink (fs : FileSystem) (path : Path) : Option Text :=
  match fs.node? path with
  | some (.link target) => some target
  | _ => none

end FileSystem

/-- What is left to walk: a name, a `..`, the start from the root, or the mark behind
the target of a link. -/
inductive Item where
  | name (name : Text)
  | up
  | root
  | done (link : Path)
  deriving DecidableEq

def itemOf (component : Text) : Option Item :=
  if component = [] ∨ component = ['.'] then none
  else if component = ['.', '.'] then some .up
  else some (.name component)

def items (path : Text) : List Item :=
  (if path.head? = some '/' then [.root] else []) ++ (path.splitOnP (· == '/')).filterMap itemOf

/-- The links seen so far, each with its resolved path or, inside of its target,
without. -/
abbrev Seen := List (Path × Option Path)

def Seen.finish (seen : Seen) (link path : Path) : Seen :=
  seen.map fun entry => if entry.1 = link then (link, some path) else entry

theorem Seen.keys_finish (seen : Seen) (link path : Path) :
    (seen.finish link path).map Prod.fst = seen.map Prod.fst := by
  rw [Seen.finish, List.map_map]
  refine List.map_congr_left fun entry _ => ?_
  rw [Function.comp_apply]
  split
  · rename_i h
    exact h.symm
  · rfl

namespace FileSystem

variable (fs : FileSystem)

def unseenLinks (seen : Seen) : List Path :=
  (fs.entries.rows.map Entry.path).filter fun path =>
    (fs.readlink path).isSome ∧ path ∉ seen.map Prod.fst

theorem mem_of_readlink {path : Path} {target : Text} (h : fs.readlink path = some target) :
    path ∈ fs.entries.rows.map Entry.path := by
  unfold readlink node? nodeIn at h
  split at h
  · rename_i hnode
    cases path with
    | nil => cases hnode
    | cons name parent =>
        obtain ⟨entry, hentry, -⟩ := Option.map_eq_some_iff.mp hnode
        exact List.mem_map.mpr ⟨entry, Table.mem_of_find? hentry, Table.key_of_find? hentry⟩
  · cases h

theorem not_mem_keys {seen : Seen} {path : Path} (h : seen.lookup path = none) :
    path ∉ seen.map Prod.fst := by
  intro hmem
  obtain ⟨entry, hentry, rfl⟩ := List.mem_map.mp hmem
  have hne := List.lookup_eq_none_iff.mp h entry hentry
  exact absurd hne (by simp)

theorem length_unseenLinks_lt {seen : Seen} {path : Path} {target : Text}
    (h : fs.readlink path = some target) (hnew : seen.lookup path = none) :
    (fs.unseenLinks ((path, none) :: seen)).length < (fs.unseenLinks seen).length := by
  have hfilter : fs.unseenLinks ((path, none) :: seen) =
      (fs.unseenLinks seen).filter fun other => other ≠ path := by
    rw [unseenLinks, unseenLinks, List.filter_filter]
    refine List.filter_congr fun other _ => ?_
    simp only [List.map_cons, List.mem_cons, not_or, ← Bool.decide_and]
    congr 1
    exact propext and_left_comm
  rw [hfilter, List.length_filter_lt_length_iff_exists]
  refine ⟨path, List.mem_filter.mpr ⟨fs.mem_of_readlink h, ?_⟩, by simp⟩
  rw [decide_eq_true_eq, h]
  exact ⟨rfl, not_mem_keys hnew⟩

theorem unseenLinks_finish (seen : Seen) (link path : Path) :
    fs.unseenLinks (seen.finish link path) = fs.unseenLinks seen := by
  rw [unseenLinks, unseenLinks, seen.keys_finish]

/-- `os.path.realpath`, with the recursion into the targets of links as a list of what is
left to walk; a loop of links is an error. -/
def resolveItems (seen : Seen) (path : Path) : List Item → Except FileError Path
  | [] => .ok path
  | .root :: rest => resolveItems seen [] rest
  | .up :: rest => resolveItems seen path.tail rest
  | .done link :: rest => resolveItems (seen.finish link path) path rest
  | .name name :: rest =>
      if '\x00' ∈ name then .error .embeddedNull
      else
        match _hlink : fs.readlink (name :: path) with
        | none => resolveItems seen (name :: path) rest
        | some target =>
            match _hseen : seen.lookup (name :: path) with
            | some (some resolved) => resolveItems seen resolved rest
            | some none => .error .symlinkLoop
            | none =>
                resolveItems ((name :: path, none) :: seen) path
                  (items target ++ .done (name :: path) :: rest)
termination_by todo => ((fs.unseenLinks seen).length, todo.length)
decreasing_by
  · exact Prod.Lex.right _ (Nat.lt_succ_self _)
  · exact Prod.Lex.right _ (Nat.lt_succ_self _)
  · rw [unseenLinks_finish]
    exact Prod.Lex.right _ (Nat.lt_succ_self _)
  · exact Prod.Lex.right _ (Nat.lt_succ_self _)
  · exact Prod.Lex.right _ (Nat.lt_succ_self _)
  · exact Prod.Lex.left _ _ (fs.length_unseenLinks_lt _hlink _hseen)

section Names

variable {fs : FileSystem} {seen : Seen} {path : Path} {name target : Text} {rest : List Item}

theorem resolveItems_plain (hnull : '\x00' ∉ name) (hlink : fs.readlink (name :: path) = none) :
    fs.resolveItems seen path (.name name :: rest) = fs.resolveItems seen (name :: path) rest := by
  rw [resolveItems, if_neg hnull]
  split
  · rfl
  · rename_i htarget
    cases hlink.symm.trans htarget

theorem resolveItems_seen (hnull : '\x00' ∉ name)
    (hlink : fs.readlink (name :: path) = some target) {resolved : Path}
    (hseen : seen.lookup (name :: path) = some (some resolved)) :
    fs.resolveItems seen path (.name name :: rest) = fs.resolveItems seen resolved rest := by
  rw [resolveItems, if_neg hnull]
  split
  · rename_i hnone
    cases hlink.symm.trans hnone
  · split
    · rename_i hfound
      cases hseen.symm.trans hfound
      rfl
    · rename_i hfound
      cases hseen.symm.trans hfound
    · rename_i hfound
      cases hseen.symm.trans hfound

theorem resolveItems_loop (hnull : '\x00' ∉ name)
    (hlink : fs.readlink (name :: path) = some target)
    (hseen : seen.lookup (name :: path) = some none) :
    fs.resolveItems seen path (.name name :: rest) = .error .symlinkLoop := by
  rw [resolveItems, if_neg hnull]
  split
  · rename_i hnone
    cases hlink.symm.trans hnone
  · split
    · rename_i hfound
      cases hseen.symm.trans hfound
    · rfl
    · rename_i hfound
      cases hseen.symm.trans hfound

theorem resolveItems_target (hnull : '\x00' ∉ name)
    (hlink : fs.readlink (name :: path) = some target)
    (hseen : seen.lookup (name :: path) = none) :
    fs.resolveItems seen path (.name name :: rest) =
      fs.resolveItems ((name :: path, none) :: seen) path
        (items target ++ .done (name :: path) :: rest) := by
  rw [resolveItems, if_neg hnull]
  split
  · rename_i hnone
    cases hlink.symm.trans hnone
  · rename_i htarget
    cases hlink.symm.trans htarget
    split
    · rename_i hfound
      cases hseen.symm.trans hfound
    · rename_i hfound
      cases hseen.symm.trans hfound
    · rfl

end Names

end FileSystem

/-- Nothing on the way to the path is a link, and the kernel takes its names. -/
structure IsResolved (fs : FileSystem) (path : Path) : Prop where
  linkFree : ∀ above, above <:+ path → fs.readlink above = none
  names : ∀ name ∈ path, '\x00' ∉ name

variable {fs fs' : FileSystem} {seen : Seen} {path : Path} {todo : List Item}

theorem isResolved_nil (fs : FileSystem) : IsResolved fs [] where
  linkFree above habove := by
    rw [List.suffix_nil.mp habove]
    rfl
  names := nofun

theorem IsResolved.of_suffix (h : IsResolved fs path) {above : Path} (habove : above <:+ path) :
    IsResolved fs above where
  linkFree other hother := h.linkFree other (hother.trans habove)
  names name hname := h.names name (habove.subset hname)

theorem IsResolved.cons (h : IsResolved fs path) {name : Text} (hname : '\x00' ∉ name)
    (hlink : fs.readlink (name :: path) = none) : IsResolved fs (name :: path) where
  linkFree above habove := by
    rcases List.suffix_cons_iff.mp habove with rfl | habove
    · exact hlink
    · exact h.linkFree above habove
  names := List.forall_mem_cons.mpr ⟨hname, h.names⟩

/-- The resolved paths of the links seen. -/
def Seen.IsResolved (fs : FileSystem) (seen : Seen) : Prop :=
  ∀ link resolved, (link, some resolved) ∈ seen → PosixFiles.IsResolved fs resolved

theorem Seen.IsResolved.finish (h : Seen.IsResolved fs seen) (hpath : PosixFiles.IsResolved fs path)
    (link : Path) : Seen.IsResolved fs (seen.finish link path) := by
  intro other resolved hmem
  obtain ⟨entry, hentry, hsame⟩ := List.mem_map.mp hmem
  split at hsame
  · cases hsame
    exact hpath
  · rw [hsame] at hentry
    exact h other resolved hentry

theorem mem_of_lookup {seen : Seen} {value : Option Path} (h : seen.lookup path = some value) :
    (path, value) ∈ seen := by
  induction seen with
  | nil => cases h
  | cons entry rest ih =>
      obtain ⟨key, stored⟩ := entry
      rw [List.lookup_cons] at h
      split at h
      · rename_i hkey
        cases h
        rw [beq_iff_eq.mp hkey]
        exact List.mem_cons_self
      · exact List.mem_cons_of_mem _ (ih h)

theorem isResolved_of_resolveItems {resolved : Path} (hpath : IsResolved fs path)
    (hseen : Seen.IsResolved fs seen) (h : fs.resolveItems seen path todo = .ok resolved) :
    IsResolved fs resolved := by
  fun_induction FileSystem.resolveItems fs seen path todo with
  | case1 seen path =>
      cases h
      exact hpath
  | case2 seen path rest ih => exact ih (isResolved_nil fs) hseen h
  | case3 seen path rest ih => exact ih (hpath.of_suffix (List.tail_suffix path)) hseen h
  | case4 seen path link rest ih => exact ih hpath (hseen.finish hpath link) h
  | case5 seen path name rest hnull => cases h
  | case6 seen path name rest hnull hlink ih => exact ih (hpath.cons hnull hlink) hseen h
  | case7 seen path name rest hnull target hlink found hfound ih =>
      exact ih (hseen _ found (mem_of_lookup hfound)) hseen h
  | case8 seen path name rest hnull target hlink hfound => cases h
  | case9 seen path name rest hnull target hlink hfound ih =>
      refine ih hpath ?_ h
      intro link found hmem
      rcases List.mem_cons.mp hmem with hsame | hold
      · cases hsame
      · exact hseen link found hold

/-- Resolving reads the links of a file system and nothing else. -/
theorem resolveItems_congr (h : ∀ path, fs'.readlink path = fs.readlink path) :
    fs'.resolveItems seen path todo = fs.resolveItems seen path todo := by
  fun_induction FileSystem.resolveItems fs seen path todo with
  | case1 seen path => rw [FileSystem.resolveItems]
  | case2 seen path rest ih => rw [FileSystem.resolveItems, ih]
  | case3 seen path rest ih => rw [FileSystem.resolveItems, ih]
  | case4 seen path link rest ih => rw [FileSystem.resolveItems, ih]
  | case5 seen path name rest hnull => rw [FileSystem.resolveItems, if_pos hnull]
  | case6 seen path name rest hnull hlink ih =>
      rw [FileSystem.resolveItems_plain hnull ((h _).trans hlink), ih]
  | case7 seen path name rest hnull target hlink found hfound ih =>
      rw [FileSystem.resolveItems_seen hnull ((h _).trans hlink) hfound, ih]
  | case8 seen path name rest hnull target hlink hfound =>
      rw [FileSystem.resolveItems_loop hnull ((h _).trans hlink) hfound]
  | case9 seen path name rest hnull target hlink hfound ih =>
      rw [FileSystem.resolveItems_target hnull ((h _).trans hlink) hfound, ih]

/-- The walk of the kernel to an absolute path. -/
def FileSystem.locate (fs : FileSystem) (path : Path) : Except FileError Path :=
  fs.resolveItems [] [] (path.reverse.map .name)

theorem resolveItems_names {names : List Text} (h : IsResolved fs (names.reverse ++ path)) :
    fs.resolveItems seen path (names.map .name) = .ok (names.reverse ++ path) := by
  induction names generalizing path with
  | nil => rw [List.map_nil, FileSystem.resolveItems]; rfl
  | cons name names ih =>
      rw [List.reverse_cons, List.append_assoc] at h ⊢
      have hhere : IsResolved fs (name :: path) := h.of_suffix (List.suffix_append _ _)
      rw [List.map_cons, FileSystem.resolveItems_plain (hhere.names name List.mem_cons_self)
        (hhere.linkFree _ List.suffix_rfl)]
      exact ih h

/-- The kernel finds a resolved path where it says. -/
theorem locate_of_isResolved (h : IsResolved fs path) : fs.locate path = .ok path := by
  have hreverse : path.reverse.reverse ++ [] = path := by
    rw [List.reverse_reverse, List.append_nil]
  have hpath : IsResolved fs (path.reverse.reverse ++ []) := by rwa [hreverse]
  exact (resolveItems_names hpath).trans (congrArg Except.ok hreverse)

namespace FileSystem

variable (fs : FileSystem)

/-- Why the walk through a located path fails. -/
def walkError : Path → FileError
  | [] => .notFound
  | name :: parent =>
      if (fs.node? (name :: parent)).isSome then .notADirectory
      else if fs.node? parent = some .dir then .notFound
      else walkError parent

def nodeAt (place : Path) : Except FileError Node :=
  match fs.node? place with
  | some node => .ok node
  | none => .error (fs.walkError place.tail)

/-- `stat`, behind the links. -/
def stat (path : Path) : Except FileError Node := do fs.nodeAt (← fs.locate path)

def exists' (path : Path) : Bool := (fs.stat path).toBool

def isDir (path : Path) : Bool :=
  match fs.stat path with
  | .ok .dir => true
  | _ => false

theorem ne_dir_of_free {path : Path} (h : fs.node? path = none) : fs.node? path ≠ some .dir := by
  rw [h]
  nofun

/-- `os.mkdir`. -/
def osMkdir : Path → FileSystem × Except FileError Unit
  | [] => (fs, .error .fileExists)
  | name :: parent =>
      if '\x00' ∈ name then (fs, .error .embeddedNull)
      else
        match fs.locate parent with
        | .error e => (fs, .error e)
        | .ok place =>
            if hparent : fs.node? place = some .dir then
              if hfree : fs.node? (name :: place) = none then
                (fs.put name place .dir hparent (fs.ne_dir_of_free hfree), .ok ())
              else (fs, .error .fileExists)
            else (fs, .error (fs.walkError place))

/-- `mkdir(exist_ok=True)`. -/
def mkdir (path : Path) : FileSystem × Except FileError Unit :=
  match fs.osMkdir path with
  | (fs, .ok ()) => (fs, .ok ())
  | (fs, .error e) => if e ≠ .notFound ∧ fs.isDir path then (fs, .ok ()) else (fs, .error e)

/-- The second call, unless the first has failed. -/
def andThen {α : Type} (done : FileSystem × Except FileError Unit)
    (next : FileSystem → FileSystem × Except FileError α) : FileSystem × Except FileError α :=
  match done with
  | (fs, .ok ()) => next fs
  | (fs, .error e) => (fs, .error e)

/-- `mkdir(parents=True, exist_ok=True)`. -/
def mkdirParents (fs : FileSystem) : Path → FileSystem × Except FileError Unit
  | [] => fs.mkdir []
  | name :: parent =>
      if (fs.osMkdir (name :: parent)).2 = .error .notFound then
        andThen (fs.mkdirParents parent) fun fs => fs.mkdir (name :: parent)
      else fs.mkdir (name :: parent)

/-- The bytes of a file that is opened for reading. -/
def readBytes (path : Path) : Except FileError ByteArray := do
  match ← fs.stat path with
  | .file bytes => return bytes
  | .dir => .error .isADirectory
  | .link _ => .error .symlinkLoop

/-- A file that is opened for writing, written and closed. -/
def writeBytes (path : Path) (bytes : ByteArray) : FileSystem × Except FileError Unit :=
  match fs.locate path with
  | .error e => (fs, .error e)
  | .ok [] => (fs, .error .isADirectory)
  | .ok (name :: parent) =>
      if hparent : fs.node? parent = some .dir then
        if hfree : fs.node? (name :: parent) = some .dir then (fs, .error .isADirectory)
        else (fs.put name parent (.file bytes) hparent hfree, .ok ())
      else (fs, .error (fs.walkError parent))

def nameIn (place : Path) : Path → Option Text
  | name :: parent => if parent = place then some name else none
  | [] => none

/-- The names in a directory. -/
def iterdir (path : Path) : Except FileError (List Text) := do
  match ← fs.stat path with
  | .dir => return (fs.entries.rows.map Entry.path).filterMap (nameIn (← fs.locate path))
  | _ => .error .notADirectory

end FileSystem

section Resolved

variable {fs fs' : FileSystem} {path parent : Path} {name : Text}

theorem readlink_congr (h : fs'.node? path = fs.node? path) :
    fs'.readlink path = fs.readlink path := by
  rw [FileSystem.readlink, FileSystem.readlink, h]

/-- Directories have been made on the way to the path, where nothing was. -/
def MakesDirs (fs fs' : FileSystem) (path : Path) : Prop :=
  ∀ other, fs'.node? other =
    if fs.node? other = none ∧ other <:+ path then some .dir else fs.node? other

theorem MakesDirs.readlink (h : MakesDirs fs fs' path) (other : Path) :
    fs'.readlink other = fs.readlink other := by
  by_cases hmade : fs.node? other = none ∧ other <:+ path
  · rw [FileSystem.readlink, FileSystem.readlink, h other, if_pos hmade, hmade.1]
  · exact readlink_congr ((h other).trans (if_neg hmade))

theorem IsResolved.osMkdir_cons (h : IsResolved fs (name :: parent)) :
    fs.osMkdir (name :: parent) =
      if hparent : fs.node? parent = some .dir then
        if hfree : fs.node? (name :: parent) = none then
          (fs.put name parent .dir hparent (fs.ne_dir_of_free hfree), .ok ())
        else (fs, .error .fileExists)
      else (fs, .error (fs.walkError parent)) := by
  have hplace := locate_of_isResolved (h.of_suffix (List.suffix_cons name parent))
  rw [FileSystem.osMkdir, if_neg (h.names name List.mem_cons_self)]
  simp only [hplace]

theorem node?_of_suffix (hdir : fs.node? path = some .dir) {above : Path} (h : above <:+ path) :
    fs.node? above = some .dir := by
  induction path with
  | nil =>
      rw [List.suffix_nil.mp h]
      rfl
  | cons name parent ih =>
      rcases List.suffix_cons_iff.mp h with rfl | h
      · exact hdir
      · refine ih (fs.parent_isDir name parent ?_) h
        show fs.node? (name :: parent) ≠ none
        rw [hdir]
        nofun

theorem makesDirs_refl (hdir : fs.node? path = some .dir) : MakesDirs fs fs path := by
  intro other
  rw [if_neg]
  rintro ⟨hnone, habove⟩
  cases hnone.symm.trans (node?_of_suffix hdir habove)

theorem makesDirs_put (hparent : fs.node? parent = some .dir)
    (hfree : fs.node? (name :: parent) = none) :
    MakesDirs fs (fs.put name parent .dir hparent (fs.ne_dir_of_free hfree)) (name :: parent) := by
  intro other
  rw [FileSystem.node?_put]
  by_cases hsame : other = name :: parent
  · rw [if_pos hsame, hsame, if_pos ⟨hfree, List.suffix_rfl⟩]
  · rw [if_neg hsame, if_neg]
    rintro ⟨hnone, habove⟩
    rcases List.suffix_cons_iff.mp habove with rfl | habove
    · exact hsame rfl
    · cases hnone.symm.trans (node?_of_suffix hparent habove)

theorem MakesDirs.trans {fs'' : FileSystem} (h : MakesDirs fs fs' parent)
    (h' : MakesDirs fs' fs'' (name :: parent)) : MakesDirs fs fs'' (name :: parent) := by
  intro other
  rw [h' other, h other]
  by_cases hnone : fs.node? other = none
  · by_cases habove : other <:+ parent
    · have hlonger := habove.trans (List.suffix_cons name parent)
      simp [hnone, habove, hlonger]
    · simp [hnone, habove]
  · simp [hnone]

theorem IsResolved.of_makesDirs {above : Path} (h : IsResolved fs path)
    (hdirs : MakesDirs fs fs' above) : IsResolved fs' path where
  linkFree other hother := (hdirs.readlink other).trans (h.linkFree other hother)
  names := h.names

theorem nodeAt_of_some {node : Node} (h : fs.node? path = some node) :
    fs.nodeAt path = .ok node := by
  rw [FileSystem.nodeAt, h]

theorem nodeAt_of_none (h : fs.node? path = none) :
    fs.nodeAt path = .error (fs.walkError path.tail) := by
  rw [FileSystem.nodeAt, h]

theorem IsResolved.stat_eq (h : IsResolved fs path) : fs.stat path = fs.nodeAt path := by
  rw [FileSystem.stat, locate_of_isResolved h]
  rfl

theorem IsResolved.isDir_iff (h : IsResolved fs path) :
    fs.isDir path = true ↔ fs.node? path = some .dir := by
  rw [FileSystem.isDir, h.stat_eq]
  cases hnode : fs.node? path with
  | none => simp [nodeAt_of_none hnode]
  | some node => cases node <;> simp [nodeAt_of_some hnode]

/-- A directory is there and those above it have been made, or nothing has changed. -/
def MkdirDone (fs : FileSystem) (path : Path) (done : FileSystem × Except FileError Unit) : Prop :=
  (done.2 = .ok () ∧ MakesDirs fs done.1 path ∧ done.1.node? path = some .dir) ∨
    ((∃ e, done.2 = .error e) ∧ done.1 = fs)

theorem IsResolved.mkdir_of_free (h : IsResolved fs (name :: parent))
    (hparent : fs.node? parent = some .dir) (hfree : fs.node? (name :: parent) = none) :
    fs.mkdir (name :: parent) =
      (fs.put name parent .dir hparent (fs.ne_dir_of_free hfree), .ok ()) := by
  rw [FileSystem.mkdir, h.osMkdir_cons, dif_pos hparent, dif_pos hfree]

theorem IsResolved.mkdir_of_taken (h : IsResolved fs (name :: parent))
    (hparent : fs.node? parent = some .dir) (htaken : ¬ fs.node? (name :: parent) = none) :
    fs.mkdir (name :: parent) =
      (fs, if fs.node? (name :: parent) = some .dir then .ok () else .error .fileExists) := by
  rw [FileSystem.mkdir, h.osMkdir_cons, dif_pos hparent, dif_neg htaken]
  dsimp only
  by_cases hdir : fs.node? (name :: parent) = some .dir
  · rw [if_pos ⟨by decide, h.isDir_iff.mpr hdir⟩, if_pos hdir]
  · rw [if_neg fun hboth => hdir (h.isDir_iff.mp hboth.2), if_neg hdir]

theorem mkdirDone_put (hparent : fs.node? parent = some .dir)
    (hfree : fs.node? (name :: parent) = none) :
    MkdirDone fs (name :: parent)
      (fs.put name parent .dir hparent (fs.ne_dir_of_free hfree), .ok ()) := by
  refine .inl ⟨rfl, makesDirs_put hparent hfree, ?_⟩
  rw [FileSystem.node?_put, if_pos rfl]

theorem IsResolved.mkdir_of_dir (h : IsResolved fs (name :: parent))
    (hparent : fs.node? parent = some .dir) :
    MkdirDone fs (name :: parent) (fs.mkdir (name :: parent)) := by
  by_cases hfree : fs.node? (name :: parent) = none
  · rw [h.mkdir_of_free hparent hfree]
    exact mkdirDone_put hparent hfree
  · rw [h.mkdir_of_taken hparent hfree]
    split
    · rename_i hdir
      exact .inl ⟨rfl, makesDirs_refl hdir, hdir⟩
    · exact .inr ⟨⟨_, rfl⟩, rfl⟩

theorem mkdir_nil (fs : FileSystem) : fs.mkdir [] = (fs, .ok ()) := by
  have hdir := (isResolved_nil fs).isDir_iff.mpr rfl
  rw [FileSystem.mkdir, FileSystem.osMkdir]
  dsimp only
  rw [if_pos ⟨by decide, hdir⟩]

/-- What is not in a directory cannot be made. -/
theorem IsResolved.mkdir_of_not_dir (h : IsResolved fs (name :: parent))
    (hparent : ¬ fs.node? parent = some .dir) :
    fs.mkdir (name :: parent) = (fs, .error (fs.walkError parent)) := by
  rw [FileSystem.mkdir, h.osMkdir_cons, dif_neg hparent]
  dsimp only
  rw [if_neg]
  rintro ⟨-, hdir⟩
  refine hparent (node?_of_suffix (h.isDir_iff.mp hdir) (List.suffix_cons name parent))

theorem IsResolved.mkdirParents_of_dir (h : IsResolved fs (name :: parent))
    (hparent : fs.node? parent = some .dir) :
    fs.mkdirParents (name :: parent) = fs.mkdir (name :: parent) := by
  rw [FileSystem.mkdirParents, h.osMkdir_cons, dif_pos hparent, if_neg]
  split <;> nofun

theorem IsResolved.mkdirParents_of_not_dir (h : IsResolved fs (name :: parent))
    (hparent : ¬ fs.node? parent = some .dir) :
    fs.mkdirParents (name :: parent) =
      if fs.walkError parent = .notFound then
        FileSystem.andThen (fs.mkdirParents parent) fun fs => fs.mkdir (name :: parent)
      else (fs, .error (fs.walkError parent)) := by
  rw [FileSystem.mkdirParents, h.osMkdir_cons, dif_neg hparent, h.mkdir_of_not_dir hparent]
  simp only [Except.error.injEq]

theorem andThen_of_ok {α : Type} {done : FileSystem × Except FileError Unit}
    (hok : done.2 = .ok ()) (next : FileSystem → FileSystem × Except FileError α) :
    FileSystem.andThen done next = next done.1 := by
  obtain ⟨fs, result⟩ := done
  cases hok
  rfl

theorem andThen_of_error {α : Type} {done : FileSystem × Except FileError Unit} {e : FileError}
    (herror : done.2 = .error e) (next : FileSystem → FileSystem × Except FileError α) :
    FileSystem.andThen done next = (done.1, .error e) := by
  obtain ⟨fs, result⟩ := done
  cases herror
  rfl

/-- What lies in no directory is not there. -/
theorem node?_of_not_dir (hparent : ¬ fs.node? parent = some .dir) :
    fs.node? (name :: parent) = none := by
  by_contra htaken
  exact hparent (fs.parent_isDir name parent htaken)

/-- The last directory, after those above it. -/
theorem IsResolved.mkdir_of_made (h : IsResolved fs (name :: parent))
    (hparent : ¬ fs.node? parent = some .dir) (hdirs : MakesDirs fs fs' parent)
    (hdir : fs'.node? parent = some .dir) :
    (fs'.mkdir (name :: parent)).2 = .ok () ∧
      MakesDirs fs (fs'.mkdir (name :: parent)).1 (name :: parent) ∧
        (fs'.mkdir (name :: parent)).1.node? (name :: parent) = some .dir := by
  have hfree : fs'.node? (name :: parent) = none := by
    rw [hdirs (name :: parent), if_neg, node?_of_not_dir hparent]
    rintro ⟨-, hlonger⟩
    exact absurd hlonger.length_le (by simp)
  rw [(h.of_makesDirs hdirs).mkdir_of_free hdir hfree]
  refine ⟨rfl, hdirs.trans (makesDirs_put hdir hfree), ?_⟩
  rw [FileSystem.node?_put, if_pos rfl]

theorem mkdirDone_mkdirParents (h : IsResolved fs path) :
    MkdirDone fs path (fs.mkdirParents path) := by
  induction path with
  | nil =>
      rw [FileSystem.mkdirParents, mkdir_nil]
      exact .inl ⟨rfl, makesDirs_refl rfl, rfl⟩
  | cons name parent ih =>
      by_cases hparent : fs.node? parent = some .dir
      · rw [h.mkdirParents_of_dir hparent]
        exact h.mkdir_of_dir hparent
      · rw [h.mkdirParents_of_not_dir hparent]
        split
        · rcases ih (h.of_suffix (List.suffix_cons name parent)) with
            ⟨hok, hdirs, hdir⟩ | ⟨⟨e, herror⟩, hsame⟩
          · rw [andThen_of_ok hok]
            exact .inl (h.mkdir_of_made hparent hdirs hdir)
          · rw [andThen_of_error herror]
            exact .inr ⟨⟨e, rfl⟩, hsame⟩
        · exact .inr ⟨⟨_, rfl⟩, rfl⟩

/-- Nothing but directories on the way to the path, as far as there is anything. -/
def Makeable (fs : FileSystem) (path : Path) : Prop :=
  ∀ above, above <:+ path → fs.node? above = none ∨ fs.node? above = some .dir

theorem makeable_of_dir (hdir : fs.node? path = some .dir) : Makeable fs path :=
  fun _ habove => .inr (node?_of_suffix hdir habove)

theorem makeable_cons_iff : Makeable fs (name :: parent) ↔
    (fs.node? (name :: parent) = none ∨ fs.node? (name :: parent) = some .dir) ∧
      Makeable fs parent := by
  constructor
  · intro h
    exact ⟨h _ List.suffix_rfl, fun above habove => h above (habove.trans (List.suffix_cons _ _))⟩
  · rintro ⟨hhere, habove⟩ above hsuffix
    rcases List.suffix_cons_iff.mp hsuffix with rfl | hsuffix
    · exact hhere
    · exact habove above hsuffix

theorem walkError_eq_notFound_iff (hparent : ¬ fs.node? parent = some .dir) :
    fs.walkError parent = .notFound ↔ Makeable fs parent := by
  induction parent with
  | nil => exact absurd rfl hparent
  | cons name above ih =>
      rw [FileSystem.walkError, makeable_cons_iff]
      by_cases hfree : fs.node? (name :: above) = none
      · rw [hfree, if_neg (by decide)]
        by_cases habove : fs.node? above = some .dir
        · rw [if_pos habove]
          simp [makeable_of_dir habove]
        · rw [if_neg habove, ih habove]
          simp
      · rw [if_pos (Option.isSome_iff_ne_none.mpr hfree)]
        simp [hfree, hparent]

/-- The directories are made unless something else is in the way. -/
theorem mkdirParents_ok_iff (h : IsResolved fs path) :
    (fs.mkdirParents path).2 = .ok () ↔ Makeable fs path := by
  induction path with
  | nil => 
      rw [FileSystem.mkdirParents, mkdir_nil]
      exact iff_of_true rfl (makeable_of_dir rfl)
  | cons name parent ih =>
      have habove := h.of_suffix (List.suffix_cons name parent)
      rw [makeable_cons_iff]
      by_cases hparent : fs.node? parent = some .dir
      · rw [h.mkdirParents_of_dir hparent, and_iff_left (makeable_of_dir hparent)]
        by_cases hfree : fs.node? (name :: parent) = none
        · rw [h.mkdir_of_free hparent hfree]
          exact iff_of_true rfl (.inl hfree)
        · rw [h.mkdir_of_taken hparent hfree, or_iff_right hfree]
          split
          · rename_i hdir
            exact iff_of_true rfl hdir
          · rename_i hdir
            exact iff_of_false nofun hdir
      · have hfree : fs.node? (name :: parent) = none := node?_of_not_dir hparent
        rw [and_iff_right (.inl hfree)]
        rw [h.mkdirParents_of_not_dir hparent]
        split
        · rcases mkdirDone_mkdirParents habove with ⟨hok, hdirs, hdir⟩ | ⟨⟨e, herror⟩, -⟩
          · rw [andThen_of_ok hok, ← ih habove]
            exact iff_of_true (h.mkdir_of_made hparent hdirs hdir).1 hok
          · rw [andThen_of_error herror, ← ih habove, herror]
        · rename_i hother
          exact iff_of_false nofun fun hmake =>
            hother ((walkError_eq_notFound_iff hparent).mpr hmake)

/-- A write changes the file alone, or nothing. -/
theorem IsResolved.writeBytes_cases (h : IsResolved fs path) (bytes : ByteArray) :
    ((fs.writeBytes path bytes).2 = .ok () ∧ fs.node? path ≠ some .dir ∧
      ∀ other, (fs.writeBytes path bytes).1.node? other =
        if other = path then some (.file bytes) else fs.node? other) ∨
    ((∃ e, (fs.writeBytes path bytes).2 = .error e) ∧ (fs.writeBytes path bytes).1 = fs) := by
  cases path with
  | nil =>
      right
      rw [FileSystem.writeBytes, locate_of_isResolved h]
      exact ⟨⟨_, rfl⟩, rfl⟩
  | cons name parent =>
      rw [FileSystem.writeBytes, locate_of_isResolved h]
      dsimp only
      split
      · rename_i hparent
        split
        · exact .inr ⟨⟨_, rfl⟩, rfl⟩
        · rename_i hfree
          refine .inl ⟨rfl, hfree, fun other => ?_⟩
          dsimp only
          rw [FileSystem.node?_put]
      · exact .inr ⟨⟨_, rfl⟩, rfl⟩

theorem IsResolved.writeBytes_ok (h : IsResolved fs (name :: parent)) (bytes : ByteArray)
    (hparent : fs.node? parent = some .dir) (hfree : fs.node? (name :: parent) ≠ some .dir) :
    (fs.writeBytes (name :: parent) bytes).2 = .ok () := by
  rw [FileSystem.writeBytes, locate_of_isResolved h]
  dsimp only
  rw [dif_pos hparent, dif_neg hfree]

/-- Two file systems with the same links that are the same below a directory. -/
structure AgreeBelow (root : Path) (fs fs' : FileSystem) : Prop where
  readlink : ∀ path, fs'.readlink path = fs.readlink path
  node : ∀ path, root <:+ path → fs'.node? path = fs.node? path

variable {root : Path}

theorem IsResolved.of_agreeBelow (h : IsResolved fs path) (hagree : AgreeBelow root fs fs') :
    IsResolved fs' path where
  linkFree above habove := (hagree.readlink above).trans (h.linkFree above habove)
  names := h.names

theorem AgreeBelow.dir (hagree : AgreeBelow root fs fs') (hroot : fs.node? root = some .dir) :
    fs'.node? root = some .dir := (hagree.node root List.suffix_rfl).trans hroot

theorem AgreeBelow.isDir_iff (hagree : AgreeBelow root fs fs') (hbelow : root <:+ path) :
    fs'.node? path = some .dir ↔ fs.node? path = some .dir := by
  rw [hagree.node path hbelow]

theorem AgreeBelow.put (hagree : AgreeBelow root fs fs') (hbelow : root <:+ name :: parent)
    {node : Node} (hparent : fs.node? parent = some .dir)
    (hfree : fs.node? (name :: parent) ≠ some .dir) (hparent' : fs'.node? parent = some .dir)
    (hfree' : fs'.node? (name :: parent) ≠ some .dir) :
    AgreeBelow root (fs.put name parent node hparent hfree)
      (fs'.put name parent node hparent' hfree') := by
  have hsame : ∀ path, fs'.node? path = fs.node? path →
      (fs'.put name parent node hparent' hfree').node? path =
        (fs.put name parent node hparent hfree).node? path := by
    intro path h
    rw [FileSystem.node?_put, FileSystem.node?_put, h]
  constructor
  · intro path
    by_cases hhere : path = name :: parent
    · exact readlink_congr (hsame path (hhere ▸ hagree.node _ hbelow))
    · have hother : ∀ (fs : FileSystem) hparent hfree,
          (fs.put name parent node hparent hfree).readlink path = fs.readlink path := by
        intro fs hparent hfree
        exact readlink_congr (by rw [FileSystem.node?_put, if_neg hhere])
      rw [hother, hother, hagree.readlink]
  · intro path hpath
    exact hsame path (hagree.node path hpath)

/-- Below a directory, the way fails below it. -/
theorem AgreeBelow.walkError (hagree : AgreeBelow root fs fs') (hroot : fs.node? root = some .dir)
    (hbelow : root <:+ path) : fs'.walkError path = fs.walkError path := by
  induction path with
  | nil => rfl
  | cons name parent ih =>
      rw [FileSystem.walkError, FileSystem.walkError, hagree.node _ hbelow]
      rcases List.suffix_cons_iff.mp hbelow with rfl | habove
      · rw [hroot]
        rfl
      · rw [hagree.node parent habove, ih habove]

theorem suffix_parent (hroot : fs.node? root = some .dir) (hbelow : root <:+ name :: parent)
    (hpath : ¬ fs.node? (name :: parent) = some .dir) : root <:+ parent := by
  rcases List.suffix_cons_iff.mp hbelow with rfl | habove
  · exact absurd hroot hpath
  · exact habove

theorem AgreeBelow.nodeAt (hagree : AgreeBelow root fs fs') (hroot : fs.node? root = some .dir)
    (hbelow : root <:+ path) : fs'.nodeAt path = fs.nodeAt path := by
  have hnode := hagree.node path hbelow
  cases h : fs.node? path with
  | some node => rw [nodeAt_of_some h, nodeAt_of_some (hnode.trans h)]
  | none =>
      rw [nodeAt_of_none h, nodeAt_of_none (hnode.trans h)]
      cases path with
      | nil => cases h
      | cons name parent =>
          have habove := suffix_parent hroot hbelow (by rw [h]; nofun)
          rw [List.tail_cons, hagree.walkError hroot habove]

theorem AgreeBelow.stat (hagree : AgreeBelow root fs fs') (hroot : fs.node? root = some .dir)
    (h : IsResolved fs path) (hbelow : root <:+ path) : fs'.stat path = fs.stat path := by
  rw [(h.of_agreeBelow hagree).stat_eq, h.stat_eq, hagree.nodeAt hroot hbelow]

theorem AgreeBelow.readBytes (hagree : AgreeBelow root fs fs') (hroot : fs.node? root = some .dir)
    (h : IsResolved fs path) (hbelow : root <:+ path) : fs'.readBytes path = fs.readBytes path := by
  rw [FileSystem.readBytes, FileSystem.readBytes, hagree.stat hroot h hbelow]

/-- A call with the same outcome in both file systems, which agree after it. -/
def SameDone {α : Type} (root : Path) (done done' : FileSystem × Except FileError α) : Prop :=
  done'.2 = done.2 ∧ AgreeBelow root done.1 done'.1

theorem AgreeBelow.writeBytes (hagree : AgreeBelow root fs fs') (hroot : fs.node? root = some .dir)
    (h : IsResolved fs path) (hbelow : root <:+ path) (bytes : ByteArray) :
    SameDone root (fs.writeBytes path bytes) (fs'.writeBytes path bytes) := by
  rw [FileSystem.writeBytes, FileSystem.writeBytes, locate_of_isResolved h,
    locate_of_isResolved (h.of_agreeBelow hagree)]
  cases path with
  | nil => exact ⟨rfl, hagree⟩
  | cons name parent =>
      dsimp only
      by_cases hdir : fs.node? (name :: parent) = some .dir
      · have hdir' := (hagree.isDir_iff hbelow).mpr hdir
        have hparent := node?_of_suffix hdir (List.suffix_cons name parent)
        have hparent' := node?_of_suffix hdir' (List.suffix_cons name parent)
        rw [dif_pos hparent, dif_pos hdir, dif_pos hparent', dif_pos hdir']
        exact ⟨rfl, hagree⟩
      · have habove := suffix_parent hroot hbelow hdir
        have hdir' := mt (hagree.isDir_iff hbelow).mp hdir
        by_cases hparent : fs.node? parent = some .dir
        · have hparent' := (hagree.isDir_iff habove).mpr hparent
          rw [dif_pos hparent, dif_neg hdir, dif_pos hparent', dif_neg hdir']
          exact ⟨rfl, hagree.put hbelow hparent hdir hparent' hdir'⟩
        · rw [dif_neg hparent, dif_neg (mt (hagree.isDir_iff habove).mp hparent),
            hagree.walkError hroot habove]
          exact ⟨rfl, hagree⟩

theorem IsResolved.mkdirParents_of_isDir (h : IsResolved fs path)
    (hdir : fs.node? path = some .dir) : fs.mkdirParents path = (fs, .ok ()) := by
  cases path with
  | nil => rw [FileSystem.mkdirParents, mkdir_nil]
  | cons name parent =>
      have hparent := node?_of_suffix hdir (List.suffix_cons name parent)
      have htaken : ¬ fs.node? (name :: parent) = none := by
        rw [hdir]
        nofun
      rw [h.mkdirParents_of_dir hparent, h.mkdir_of_taken hparent htaken, if_pos hdir]

theorem AgreeBelow.mkdir (hagree : AgreeBelow root fs fs') (h : IsResolved fs (name :: parent))
    (hbelow : root <:+ name :: parent) (hparent : fs.node? parent = some .dir)
    (hparent' : fs'.node? parent = some .dir) :
    SameDone root (fs.mkdir (name :: parent)) (fs'.mkdir (name :: parent)) := by
  have h' := h.of_agreeBelow hagree
  have hnode := hagree.node _ hbelow
  by_cases hfree : fs.node? (name :: parent) = none
  · have hfree' := hnode.trans hfree
    rw [h.mkdir_of_free hparent hfree, h'.mkdir_of_free hparent' hfree']
    exact ⟨rfl, hagree.put hbelow hparent (fs.ne_dir_of_free hfree) hparent'
      (fs'.ne_dir_of_free hfree')⟩
  · have hfree' : ¬ fs'.node? (name :: parent) = none := by rwa [hnode]
    rw [h.mkdir_of_taken hparent hfree, h'.mkdir_of_taken hparent' hfree', hnode]
    exact ⟨rfl, hagree⟩

theorem AgreeBelow.mkdirParents (hagree : AgreeBelow root fs fs')
    (hroot : fs.node? root = some .dir) (h : IsResolved fs path) (hbelow : root <:+ path) :
    SameDone root (fs.mkdirParents path) (fs'.mkdirParents path) := by
  induction path with
  | nil =>
      rw [FileSystem.mkdirParents, FileSystem.mkdirParents, mkdir_nil, mkdir_nil]
      exact ⟨rfl, hagree⟩
  | cons name parent ih =>
      have h' := h.of_agreeBelow hagree
      by_cases hdir : fs.node? (name :: parent) = some .dir
      · rw [h.mkdirParents_of_isDir hdir,
          h'.mkdirParents_of_isDir ((hagree.isDir_iff hbelow).mpr hdir)]
        exact ⟨rfl, hagree⟩
      · have habove := suffix_parent hroot hbelow hdir
        have hresolved := h.of_suffix (List.suffix_cons name parent)
        by_cases hparent : fs.node? parent = some .dir
        · have hparent' := (hagree.isDir_iff habove).mpr hparent
          rw [h.mkdirParents_of_dir hparent, h'.mkdirParents_of_dir hparent']
          exact hagree.mkdir h hbelow hparent hparent'
        · have hparent' := mt (hagree.isDir_iff habove).mp hparent
          rw [h.mkdirParents_of_not_dir hparent, h'.mkdirParents_of_not_dir hparent',
            hagree.walkError hroot habove]
          split
          · obtain ⟨hresult, hafter⟩ := ih hresolved habove
            rcases mkdirDone_mkdirParents hresolved with
              ⟨hok, hdirs, hmade⟩ | ⟨⟨e, herror⟩, -⟩
            · rw [andThen_of_ok hok, andThen_of_ok (hresult.trans hok)]
              exact hafter.mkdir (h.of_makesDirs hdirs) hbelow hmade
                ((hafter.isDir_iff habove).mpr hmade)
            · rw [andThen_of_error herror, andThen_of_error (hresult.trans herror)]
              exact ⟨rfl, hafter⟩
          · exact ⟨rfl, hagree⟩

theorem nameIn_eq_some {place other : Path} : FileSystem.nameIn place other = some name ↔
    other = name :: place := by
  cases other with
  | nil => exact iff_of_false nofun nofun
  | cons last parent =>
      rw [FileSystem.nameIn, List.cons.injEq]
      split <;> simp_all

theorem nodup_names (fs : FileSystem) (place : Path) :
    ((fs.entries.rows.map Entry.path).filterMap (FileSystem.nameIn place)).Nodup := by
  refine List.Nodup.filterMap (fun path path' name hpath hpath' => ?_) fs.entries.keys_nodup
  exact (nameIn_eq_some.mp hpath).trans (nameIn_eq_some.mp hpath').symm

theorem mem_names {place : Path} :
    name ∈ (fs.entries.rows.map Entry.path).filterMap (FileSystem.nameIn place) ↔
      fs.node? (name :: place) ≠ none := by
  have hnode : fs.node? (name :: place) = (fs.entries.find? (name :: place)).map Entry.node := rfl
  rw [List.mem_filterMap, hnode, Ne, Option.map_eq_none_iff, Table.find?_eq_none_iff]
  simp only [nameIn_eq_some, exists_eq_right, List.mem_map, not_forall, not_not, exists_prop]
  rfl

theorem AgreeBelow.names_perm (hagree : AgreeBelow root fs fs') (hbelow : root <:+ path) :
    ((fs'.entries.rows.map Entry.path).filterMap (FileSystem.nameIn path)).Perm
      ((fs.entries.rows.map Entry.path).filterMap (FileSystem.nameIn path)) := by
  rw [List.perm_ext_iff_of_nodup (nodup_names fs' path) (nodup_names fs path)]
  intro name
  rw [mem_names, mem_names, hagree.node _ (hbelow.trans (List.suffix_cons name path))]

/-- `sorted` of strings. -/
def sortNames (names : List Text) : List Text := names.insertionSort (· ≤ ·)

theorem sortNames_eq_of_perm {names names' : List Text} (h : names'.Perm names) :
    sortNames names' = sortNames names := by
  refine List.Perm.eq_of_pairwise' (List.pairwise_insertionSort _ _)
    (List.pairwise_insertionSort _ _) ?_
  exact ((List.perm_insertionSort _ names').trans h).trans (List.perm_insertionSort _ names).symm

theorem AgreeBelow.iterdir (hagree : AgreeBelow root fs fs') (hroot : fs.node? root = some .dir)
    (h : IsResolved fs path) (hbelow : root <:+ path) :
    (fs'.iterdir path).map sortNames = (fs.iterdir path).map sortNames := by
  rw [FileSystem.iterdir, FileSystem.iterdir, hagree.stat hroot h hbelow, locate_of_isResolved h,
    locate_of_isResolved (h.of_agreeBelow hagree)]
  cases hstat : fs.stat path with
  | error e => rfl
  | ok node =>
      cases node with
      | dir => exact congrArg Except.ok (sortNames_eq_of_perm (hagree.names_perm hbelow))
      | file bytes => rfl
      | link target => rfl

end Resolved

end NanoCore.Foundation.PosixFiles
