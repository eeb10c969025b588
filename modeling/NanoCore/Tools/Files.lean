import NanoCore.Foundation.JsonRepr
import NanoCore.Foundation.PosixFiles
import NanoCore.Foundation.Runs
import NanoCore.Foundation.Utf8Decoding

/-!
The file tools: `app/tools/workspace_context.py`, `app/tools/files.py` and the handlers
of `app/tools/file_tools.py` but for `run_python`.
-/

namespace NanoCore.Tools.Files

open NanoCore.Foundation.JsonRepr
open NanoCore.Foundation.JsonText
open NanoCore.Foundation.PosixFiles
open NanoCore.Foundation.PythonText
open NanoCore.Foundation.Runs
open NanoCore.Foundation.Utf8Decoding

/-- The directory of the process, `settings.workspace_root` and the override. -/
structure WorkspaceContext where
  cwd : Path
  workspaceRoot : Text
  workspaceOverride : Option Path

inductive FilesError where
  | os (error : FileError)
  | valueError (message : Text)
  deriving DecidableEq

def namesOf (path : Path) : List Item := path.reverse.map .name

/-- What is left to walk to the root of the workspace. -/
def WorkspaceContext.rootItems (context : WorkspaceContext) : List Item :=
  match context.workspaceOverride with
  | some path => namesOf path
  | none => namesOf context.cwd ++ items context.workspaceRoot

/-- A path as Python writes it. -/
def pathText (path : Path) : Text := '/' :: ['/'].intercalate path.reverse

/-- How a text is read: each end of a line is a newline. -/
def universalNewlines : Text → Text
  | '\r' :: '\n' :: rest => '\n' :: universalNewlines rest
  | '\r' :: rest => '\n' :: universalNewlines rest
  | c :: rest => c :: universalNewlines rest
  | [] => []

/-- The UTF-8 form that every text has here.  A lone surrogate has none: `write_text`
fails at it after it has emptied the file. -/
def encode (content : Text) : ByteArray := (utf8Encode content).toByteArray

/-- A call of one of the tools with its arguments. -/
inductive FileCall where
  | readFile (args : JsonObject)
  | writeFile (args : JsonObject)
  | listFiles (args : JsonObject)

variable (isPrintable : Char → Bool)

/-- `str(args.get(key, default))`. -/
def strArg (args : JsonObject) (key : String) (default : Text) : Text :=
  ((JsonObject.get args key).map (str isPrintable)).getD default

def FileCall.path : FileCall → Text
  | .readFile args => strArg isPrintable args "path" []
  | .writeFile args => strArg isPrintable args "path" []
  | .listFiles args => strArg isPrintable args "path" ['.']

def contentArg (args : JsonObject) : Text := strArg isPrintable args "content" []

section Tools

variable (onLoop : FileSystem → List Item → Except FileError Path) (context : WorkspaceContext)
  (fs : FileSystem)

/-- `Path.resolve`; what it does with a path on which the links go round is different from
one version of Python to the next, and `onLoop` stands for it. -/
def resolve (todo : List Item) : Except FileError Path :=
  match fs.resolveItems [] [] todo with
  | .error .symlinkLoop => onLoop fs todo
  | result => result

def effectiveWorkspaceRoot : Except FileError Path := resolve onLoop fs context.rootItems

def outsideMessage : Text := "Path must stay within the workspace root.".toList

def resolveWorkspacePath (rawPath : Text) : Except FilesError Path :=
  match effectiveWorkspaceRoot onLoop context fs with
  | .error e => .error (.os e)
  | .ok root =>
      match resolve onLoop fs (namesOf root ++ items rawPath) with
      | .error e => .error (.os e)
      | .ok path =>
          if !path.tails.tail.contains root && path != root then .error (.valueError outsideMessage)
          else .ok path

/-- `read_text(encoding="utf-8")`. -/
def readText (path : Path) : Except FileError Text :=
  match fs.readBytes path with
  | .error e => .error e
  | .ok bytes =>
      match bytes.utf8Decode? with
      | some chars => .ok (universalNewlines chars.toList)
      | none => .error .decode

def readTextFile (rawPath : Text) : Except FilesError Text :=
  match resolveWorkspacePath onLoop context fs rawPath with
  | .error e => .error e
  | .ok path => (readText fs path).mapError .os

/-- The directories above a file and the file. -/
def writeText (path : Path) (content : Text) : FileSystem × Except FileError Unit :=
  FileSystem.andThen (fs.mkdirParents path.tail) fun fs =>
    fs.writeBytes path (encode content)

def writeTextFile (rawPath content : Text) : FileSystem × Except FilesError Text :=
  match resolveWorkspacePath onLoop context fs rawPath with
  | .error e => (fs, .error e)
  | .ok path =>
      match writeText fs path content with
      | (fs, .error e) => (fs, .error (.os e))
      | (fs, .ok ()) => (fs, .ok ("wrote ".toList ++ pathText path))

def listFiles (rawPath : Text) : Except FilesError (List Text) :=
  match resolveWorkspacePath onLoop context fs rawPath with
  | .error e => .error e
  | .ok path =>
      if !fs.exists' path then .ok []
      else ((fs.iterdir path).map sortNames).mapError .os

/-- The text of `_list_files`. -/
def listing (rawPath : Text) (entries : List Text) : Text :=
  if entries.isEmpty then rawPath ++ " is empty or does not exist".toList
  else ['\n'].intercalate entries

/-- `_read_file`, `_write_file` and `_list_files`. -/
def handle (call : FileCall) : FileSystem × Except FilesError Text :=
  match call with
  | .readFile _ => (fs, readTextFile onLoop context fs (call.path isPrintable))
  | .writeFile args =>
      writeTextFile onLoop context fs (call.path isPrintable) (contentArg isPrintable args)
  | .listFiles _ =>
      (fs, (listFiles onLoop context fs (call.path isPrintable)).map
        (listing (call.path isPrintable)))

end Tools

section Writes

variable {fs fs' : FileSystem} {path root : Path}

/-- A file has been written, and the directories above it have been made. -/
def Writes (fs fs' : FileSystem) (path : Path) (bytes : ByteArray) : Prop :=
  ∀ other, fs'.node? other =
    if other = path then some (.file bytes)
    else if fs.node? other = none ∧ other <:+ path.tail then some .dir
    else fs.node? other

/-- No file is in the way of the directories, and no directory in the way of the file. -/
def Writable (fs : FileSystem) (path : Path) : Prop :=
  Makeable fs path.tail ∧ fs.node? path ≠ some .dir

theorem writeText_of_writable (h : IsResolved fs path) (hwritable : Writable fs path)
    (content : Text) : (writeText fs path content).2 = .ok () ∧
      Writes fs (writeText fs path content).1 path (encode content) := by
  obtain ⟨hmake, hfree⟩ := hwritable
  have habove := h.of_suffix (List.tail_suffix path)
  have hok := (mkdirParents_ok_iff habove).mpr hmake
  rcases mkdirDone_mkdirParents habove with ⟨-, hdirs, hdir⟩ | ⟨⟨e, herror⟩, -⟩
  · rw [writeText, andThen_of_ok hok]
    have hresolved := h.of_makesDirs hdirs
    cases path with
    | nil => exact absurd rfl hfree
    | cons name parent =>
        rw [List.tail_cons] at hdirs hdir hresolved ⊢
        have hsame : (fs.mkdirParents parent).1.node? (name :: parent) ≠ some .dir := by
          rw [hdirs (name :: parent), if_neg]
          · exact hfree
          · rintro ⟨-, hlonger⟩
            exact absurd hlonger.length_le (by simp)
        have hwritten := hresolved.writeBytes_ok (encode content) hdir hsame
        rcases hresolved.writeBytes_cases (encode content) with ⟨-, -, hnodes⟩ | ⟨⟨e, herror⟩, -⟩
        · exact ⟨hwritten, fun other => by rw [hnodes other, hdirs other]; rfl⟩
        · cases herror.symm.trans hwritten
  · cases herror.symm.trans hok

/-- A write that fails changes nothing. -/
theorem writeText_of_not_writable (h : IsResolved fs path) (hwritable : ¬ Writable fs path)
    (content : Text) : (∃ e, (writeText fs path content).2 = .error e) ∧
      (writeText fs path content).1 = fs := by
  have habove := h.of_suffix (List.tail_suffix path)
  by_cases hmake : Makeable fs path.tail
  · have hdir : fs.node? path = some .dir := by_contra fun hfree => hwritable ⟨hmake, hfree⟩
    have hparent := node?_of_suffix hdir (List.tail_suffix path)
    rw [writeText, habove.mkdirParents_of_isDir hparent, andThen_of_ok rfl]
    rcases h.writeBytes_cases (encode content) with ⟨-, hfree, -⟩ | hfailed
    · exact absurd hdir hfree
    · exact hfailed
  · rcases mkdirDone_mkdirParents habove with ⟨hok, -, -⟩ | ⟨⟨e, herror⟩, hsame⟩
    · exact absurd ((mkdirParents_ok_iff habove).mp hok) hmake
    · rw [writeText, andThen_of_error herror]
      exact ⟨⟨e, rfl⟩, hsame⟩

theorem Writes.readlink {bytes : ByteArray} (h : IsResolved fs path)
    (hwrites : Writes fs fs' path bytes) (other : Path) :
    fs'.readlink other = fs.readlink other := by
  by_cases hhere : other = path
  · rw [hhere, h.linkFree path List.suffix_rfl, FileSystem.readlink, hwrites path, if_pos rfl]
  · by_cases hmade : fs.node? other = none ∧ other <:+ path.tail
    · rw [FileSystem.readlink, FileSystem.readlink, hwrites other, if_neg hhere, if_pos hmade,
        hmade.1]
    · exact readlink_congr (by rw [hwrites other, if_neg hhere, if_neg hmade])

theorem Writes.node?_of_dir {bytes : ByteArray} (hwrites : Writes fs fs' path bytes)
    (hfree : fs.node? path ≠ some .dir) {other : Path} (hdir : fs.node? other = some .dir) :
    fs'.node? other = some .dir := by
  rw [hwrites other, if_neg, if_neg]
  · exact hdir
  · rintro ⟨hnone, -⟩
    cases hnone.symm.trans hdir
  · rintro rfl
    exact hfree hdir

/-- Only what is below the root is written. -/
theorem Writes.node?_of_outside {bytes : ByteArray} (hwrites : Writes fs fs' path bytes)
    (hroot : fs.node? root = some .dir) (hbelow : root <:+ path) {other : Path}
    (houtside : ¬ root <:+ other) : fs'.node? other = fs.node? other := by
  rw [hwrites other, if_neg, if_neg]
  · rintro ⟨hnone, habove⟩
    have hother := habove.trans (List.tail_suffix path)
    rcases List.suffix_or_suffix_of_suffix hbelow hother with h | h
    · exact houtside h
    · cases hnone.symm.trans (node?_of_suffix hroot h)
  · rintro rfl
    exact houtside hbelow

theorem writeText_agree (hagree : AgreeBelow root fs fs') (hroot : fs.node? root = some .dir)
    (h : IsResolved fs path) (hbelow : root <:+ path) (content : Text) :
    SameDone root (writeText fs path content) (writeText fs' path content) := by
  have habove := h.of_suffix (List.tail_suffix path)
  have hmade : SameDone root (fs.mkdirParents path.tail) (fs'.mkdirParents path.tail) := by
    by_cases hdir : fs.node? path = some .dir
    · have hdir' := (hagree.isDir_iff hbelow).mpr hdir
      rw [habove.mkdirParents_of_isDir (node?_of_suffix hdir (List.tail_suffix path)),
        (habove.of_agreeBelow hagree).mkdirParents_of_isDir
          (node?_of_suffix hdir' (List.tail_suffix path))]
      exact ⟨rfl, hagree⟩
    · cases path with
      | nil => exact absurd rfl hdir
      | cons name parent =>
          exact hagree.mkdirParents hroot habove (suffix_parent hroot hbelow hdir)
  obtain ⟨hresult, hafter⟩ := hmade
  rw [writeText, writeText]
  rcases mkdirDone_mkdirParents habove with ⟨hok, hdirs, -⟩ | ⟨⟨e, herror⟩, -⟩
  · rw [andThen_of_ok hok, andThen_of_ok (hresult.trans hok)]
    refine hafter.writeBytes ?_ (h.of_makesDirs hdirs) hbelow (encode content)
    rw [hdirs root, if_neg]
    · exact hroot
    · rintro ⟨hnone, -⟩
      cases hnone.symm.trans hroot
  · rw [andThen_of_error herror, andThen_of_error (hresult.trans herror)]
    exact ⟨rfl, hafter⟩

end Writes

section Paths

variable {onLoop : FileSystem → List Item → Except FileError Path} {context : WorkspaceContext}
  {fs fs' : FileSystem} {root path : Path} {rawPath : Text}

/-- The root of the workspace is there. -/
structure WorkspaceAt (context : WorkspaceContext) (fs : FileSystem) (root : Path) : Prop where
  resolves : fs.resolveItems [] [] context.rootItems = .ok root
  isDir : fs.node? root = some .dir

/-- The links on a path below the root do not go round. -/
def MeetsNoLoop (fs : FileSystem) (root : Path) (rawPath : Text) : Prop :=
  fs.resolveItems [] [] (namesOf root ++ items rawPath) ≠ .error .symlinkLoop

theorem resolve_of_ne {todo : List Item} (h : fs.resolveItems [] [] todo ≠ .error .symlinkLoop) :
    resolve onLoop fs todo = fs.resolveItems [] [] todo := by
  rw [resolve]
  split
  · rename_i hloop
    exact absurd hloop h
  · rfl

theorem not_mem_parents_iff :
    (!path.tails.tail.contains root && path != root) = true ↔ ¬ root <:+ path := by
  rw [Bool.and_eq_true, Bool.not_eq_true', bne_iff_ne, Ne, ← Bool.not_eq_true,
    List.contains_iff_mem, ← List.mem_tails, ← not_or, not_iff_not]
  cases path with
  | nil => simp [eq_comm]
  | cons name parent => rw [List.tails_cons, List.tail_cons, List.mem_cons, or_comm, eq_comm]

/-- `resolve_workspace_path`, where the root and the path resolve. -/
def pathBelow (fs : FileSystem) (root : Path) (rawPath : Text) : Except FilesError Path :=
  match fs.resolveItems [] [] (namesOf root ++ items rawPath) with
  | .error e => .error (.os e)
  | .ok path => if root <:+ path then .ok path else .error (.valueError outsideMessage)

variable (onLoop) in
theorem WorkspaceAt.resolveWorkspacePath_eq (h : WorkspaceAt context fs root)
    (hloop : MeetsNoLoop fs root rawPath) :
    resolveWorkspacePath onLoop context fs rawPath = pathBelow fs root rawPath := by
  have hroot : effectiveWorkspaceRoot onLoop context fs = .ok root := by
    rw [effectiveWorkspaceRoot, resolve_of_ne, h.resolves]
    rw [h.resolves]
    nofun
  rw [resolveWorkspacePath, hroot, pathBelow]
  dsimp only
  rw [resolve_of_ne hloop]
  simp only [not_mem_parents_iff, ite_not]

theorem seenNone : Seen.IsResolved fs [] := fun _ _ hmem => absurd hmem List.not_mem_nil

theorem isResolved_of_pathBelow (h : pathBelow fs root rawPath = .ok path) :
    IsResolved fs path ∧ root <:+ path := by
  rw [pathBelow] at h
  split at h
  · cases h
  · rename_i resolved hresolved
    split at h
    · rename_i hbelow
      cases h
      exact ⟨isResolved_of_resolveItems (isResolved_nil fs) seenNone hresolved, hbelow⟩
    · cases h

variable (hlinks : ∀ path, fs'.readlink path = fs.readlink path)

include hlinks

theorem pathBelow_congr : pathBelow fs' root rawPath = pathBelow fs root rawPath := by
  rw [pathBelow, pathBelow, resolveItems_congr hlinks]

theorem MeetsNoLoop.of_links (h : MeetsNoLoop fs root rawPath) : MeetsNoLoop fs' root rawPath := by
  rwa [MeetsNoLoop, resolveItems_congr hlinks]

theorem WorkspaceAt.of_links (h : WorkspaceAt context fs root)
    (hdir : fs'.node? root = some .dir) : WorkspaceAt context fs' root where
  resolves := (resolveItems_congr hlinks).trans h.resolves
  isDir := hdir

end Paths

section Calls

variable {isPrintable : Char → Bool}
  {onLoop : FileSystem → List Item → Except FileError Path} {context : WorkspaceContext}
  {fs fs' : FileSystem} {root path : Path} {rawPath : Text}

theorem writeTextFile_of_error (h : WorkspaceAt context fs root)
    (hloop : MeetsNoLoop fs root rawPath) {e : FilesError}
    (herror : pathBelow fs root rawPath = .error e) (content : Text) :
    writeTextFile onLoop context fs rawPath content = (fs, .error e) := by
  rw [writeTextFile, h.resolveWorkspacePath_eq onLoop hloop, herror]

theorem writeTextFile_of_writable (h : WorkspaceAt context fs root)
    (hloop : MeetsNoLoop fs root rawPath) (hpath : pathBelow fs root rawPath = .ok path)
    (hwritable : Writable fs path) (content : Text) :
    writeTextFile onLoop context fs rawPath content =
      ((writeText fs path content).1, .ok ("wrote ".toList ++ pathText path)) := by
  obtain ⟨hok, -⟩ := writeText_of_writable (isResolved_of_pathBelow hpath).1 hwritable content
  rw [writeTextFile, h.resolveWorkspacePath_eq onLoop hloop, hpath]
  dsimp only
  generalize writeText fs path content = done at hok
  obtain ⟨after, result⟩ := done
  cases hok
  rfl

variable (onLoop) in
theorem writeTextFile_of_not_writable (h : WorkspaceAt context fs root)
    (hloop : MeetsNoLoop fs root rawPath) (hpath : pathBelow fs root rawPath = .ok path)
    (hwritable : ¬ Writable fs path) (content : Text) :
    ∃ e, writeTextFile onLoop context fs rawPath content = (fs, .error e) := by
  obtain ⟨⟨e, herror⟩, hsame⟩ :=
    writeText_of_not_writable (isResolved_of_pathBelow hpath).1 hwritable content
  rw [writeTextFile, h.resolveWorkspacePath_eq onLoop hloop, hpath]
  dsimp only
  generalize writeText fs path content = done at herror hsame
  obtain ⟨after, result⟩ := done
  cases herror
  cases hsame
  exact ⟨_, rfl⟩

variable (onLoop) in
/-- A write that succeeds writes one file below the root; another changes nothing. -/
theorem writeTextFile_cases (h : WorkspaceAt context fs root)
    (hloop : MeetsNoLoop fs root rawPath) (content : Text) :
    (∃ path, pathBelow fs root rawPath = .ok path ∧ Writable fs path ∧
      (writeTextFile onLoop context fs rawPath content).2 =
        .ok ("wrote ".toList ++ pathText path) ∧
      Writes fs (writeTextFile onLoop context fs rawPath content).1 path (encode content)) ∨
    ((¬ ∃ path, pathBelow fs root rawPath = .ok path ∧ Writable fs path) ∧
      ∃ e, writeTextFile onLoop context fs rawPath content = (fs, .error e)) := by
  cases hpath : pathBelow fs root rawPath with
  | error e =>
      exact .inr ⟨nofun, e, writeTextFile_of_error h hloop hpath content⟩
  | ok path =>
      by_cases hwritable : Writable fs path
      · rw [writeTextFile_of_writable h hloop hpath hwritable content]
        have hresolved := (isResolved_of_pathBelow hpath).1
        exact .inl
          ⟨path, rfl, hwritable, rfl, (writeText_of_writable hresolved hwritable content).2⟩
      · refine .inr ⟨?_, writeTextFile_of_not_writable onLoop h hloop hpath hwritable content⟩
        rintro ⟨other, hother, hok⟩
        cases hother
        exact hwritable hok

/-- What a call leaves as it was. -/
structure KeepsOutside (root : Path) (fs fs' : FileSystem) : Prop where
  readlink : ∀ path, fs'.readlink path = fs.readlink path
  isDir : fs'.node? root = some .dir
  node : ∀ path, ¬ root <:+ path → fs'.node? path = fs.node? path

theorem keepsOutside_refl (hdir : fs.node? root = some .dir) : KeepsOutside root fs fs :=
  ⟨fun _ => rfl, hdir, fun _ _ => rfl⟩

theorem KeepsOutside.trans {fs'' : FileSystem} (h : KeepsOutside root fs fs')
    (h' : KeepsOutside root fs' fs'') : KeepsOutside root fs fs'' where
  readlink path := (h'.readlink path).trans (h.readlink path)
  isDir := h'.isDir
  node path hpath := (h'.node path hpath).trans (h.node path hpath)

theorem keepsOutside_writeTextFile (h : WorkspaceAt context fs root)
    (hloop : MeetsNoLoop fs root rawPath) (content : Text) :
    KeepsOutside root fs (writeTextFile onLoop context fs rawPath content).1 := by
  rcases writeTextFile_cases onLoop h hloop content with
    ⟨path, hpath, hwritable, -, hwrites⟩ | ⟨-, e, hsame⟩
  · obtain ⟨hresolved, hbelow⟩ := isResolved_of_pathBelow hpath
    exact ⟨hwrites.readlink hresolved, hwrites.node?_of_dir hwritable.2 h.isDir,
      fun _ => hwrites.node?_of_outside h.isDir hbelow⟩
  · rw [hsame]
    exact keepsOutside_refl h.isDir

variable (onLoop) in
theorem keepsOutside_handle (h : WorkspaceAt context fs root) {call : FileCall}
    (hloop : MeetsNoLoop fs root (call.path isPrintable)) :
    KeepsOutside root fs (handle isPrintable onLoop context fs call).1 := by
  cases call with
  | readFile args => exact keepsOutside_refl h.isDir
  | writeFile args => exact keepsOutside_writeTextFile h hloop _
  | listFiles args => exact keepsOutside_refl h.isDir

variable (onLoop) in
/-- What lies outside of the root has no part in a call. -/
theorem handle_agree (h : WorkspaceAt context fs root) (hagree : AgreeBelow root fs fs')
    {call : FileCall} (hloop : MeetsNoLoop fs root (call.path isPrintable)) :
    (handle isPrintable onLoop context fs' call).2 = (handle isPrintable onLoop context fs call).2 ∧
      AgreeBelow root (handle isPrintable onLoop context fs call).1
        (handle isPrintable onLoop context fs' call).1 := by
  have h' := h.of_links hagree.readlink (hagree.dir h.isDir)
  have hloop' := hloop.of_links hagree.readlink
  have hpath := h.resolveWorkspacePath_eq onLoop hloop
  have hpath' := h'.resolveWorkspacePath_eq onLoop hloop'
  rw [pathBelow_congr hagree.readlink] at hpath'
  cases hbelow : pathBelow fs root (call.path isPrintable) with
  | error e =>
      rw [hbelow] at hpath hpath'
      cases call <;>
        simp only [handle, readTextFile, writeTextFile, listFiles, hpath, hpath', true_and] <;>
        exact hagree
  | ok path =>
      rw [hbelow] at hpath hpath'
      obtain ⟨hresolved, hsuffix⟩ := isResolved_of_pathBelow hbelow
      cases call with
      | readFile args =>
          refine ⟨?_, hagree⟩
          have hread : readText fs' path = readText fs path := by
            rw [readText, readText, hagree.readBytes h.isDir hresolved hsuffix]
          simp only [handle, readTextFile, hpath, hpath', hread]
      | writeFile args =>
          have hwrite :=
            writeText_agree hagree h.isDir hresolved hsuffix (contentArg isPrintable args)
          simp only [handle, writeTextFile, hpath, hpath']
          generalize writeText fs path _ = done at hwrite
          generalize writeText fs' path _ = done' at hwrite
          obtain ⟨after, result⟩ := done
          obtain ⟨after', result'⟩ := done'
          obtain ⟨hresult, hafter⟩ := hwrite
          cases hresult
          cases result <;> exact ⟨rfl, hafter⟩
      | listFiles args =>
          refine ⟨?_, hagree⟩
          have hexists : fs'.exists' path = fs.exists' path := by
            rw [FileSystem.exists', FileSystem.exists', hagree.stat h.isDir hresolved hsuffix]
          simp only [handle, listFiles, hpath, hpath', hexists,
            hagree.iterdir h.isDir hresolved hsuffix]

variable (isPrintable onLoop context)

def step (fs : FileSystem) (call : FileCall) : FileSystem :=
  (handle isPrintable onLoop context fs call).1

/-- What the calls of a run return. -/
def results (fs : FileSystem) : List FileCall → List (Except FilesError Text)
  | [] => []
  | call :: rest =>
      (handle isPrintable onLoop context fs call).2 ::
        results (step isPrintable onLoop context fs call) rest

variable {isPrintable onLoop context}

variable (onLoop) in
theorem keepsOutside_run (h : WorkspaceAt context fs root) {calls : List FileCall}
    (hloops : ∀ call ∈ calls, MeetsNoLoop fs root (call.path isPrintable)) :
    KeepsOutside root fs (run (step isPrintable onLoop context) fs calls) := by
  induction calls generalizing fs with
  | nil => exact keepsOutside_refl h.isDir
  | cons call rest ih =>
      obtain ⟨hloop, hloops⟩ := List.forall_mem_cons.mp hloops
      have hkeeps := keepsOutside_handle onLoop h hloop
      exact hkeeps.trans (ih (h.of_links hkeeps.readlink hkeeps.isDir)
        fun other hother => (hloops other hother).of_links hkeeps.readlink)

theorem results_agree (h : WorkspaceAt context fs root) (hagree : AgreeBelow root fs fs')
    {calls : List FileCall}
    (hloops : ∀ call ∈ calls, MeetsNoLoop fs root (call.path isPrintable)) :
    results isPrintable onLoop context fs' calls = results isPrintable onLoop context fs calls := by
  induction calls generalizing fs fs' with
  | nil => rfl
  | cons call rest ih =>
      obtain ⟨hloop, hloops⟩ := List.forall_mem_cons.mp hloops
      obtain ⟨hresult, hafter⟩ := handle_agree onLoop h hagree hloop
      have hkeeps := keepsOutside_handle onLoop h hloop
      have hrest := ih (h.of_links hkeeps.readlink hkeeps.isDir) hafter
        fun other hother => (hloops other hother).of_links hkeeps.readlink
      rw [results, results, hresult, step, step, hrest]

/-- However many files the tools read, write and list, with whatever paths, they change
nothing outside of the root of the workspace and no link, and what they return would be the
same with anything else outside. -/
theorem fileCalls_confined (h : WorkspaceAt context fs root) {calls : List FileCall}
    (hloops : ∀ call ∈ calls, MeetsNoLoop fs root (call.path isPrintable)) :
    (∀ path, (run (step isPrintable onLoop context) fs calls).readlink path = fs.readlink path) ∧
    (∀ path, ¬ root <:+ path →
      (run (step isPrintable onLoop context) fs calls).node? path = fs.node? path) ∧
    ∀ fs', AgreeBelow root fs fs' →
      results isPrintable onLoop context fs' calls =
        results isPrintable onLoop context fs calls :=
  have hkeeps := keepsOutside_run onLoop h hloops
  ⟨hkeeps.readlink, hkeeps.node, fun _ hagree => results_agree h hagree hloops⟩

/-- A workspace `/w` with a link `o` to the directory `/e`, in which there is a file `p`. -/
def linkedWorkspace : FileSystem :=
  let withDir : FileSystem := emptyFileSystem.put ['e'] [] .dir rfl (by decide)
  let withFile := withDir.put ['p'] [['e']] (.file (encode ['s'])) (by decide) (by decide)
  let withRoot := withFile.put ['w'] [] .dir rfl (by decide)
  withRoot.put ['o'] [['w']] (.link ['/', 'e']) (by decide) (by decide)

def linkedContext : WorkspaceContext := ⟨[['w']], ['.'], none⟩

theorem workspaceAt_linked : WorkspaceAt linkedContext linkedWorkspace [['w']] where
  resolves := by
    have hitems : linkedContext.rootItems = [.name ['w']] := by decide
    rw [hitems, FileSystem.resolveItems_plain (by decide) (by decide), FileSystem.resolveItems]
  isDir := by decide

/-- The path out of the workspace. -/
theorem resolveItems_linked :
    linkedWorkspace.resolveItems [] [] (namesOf [['w']] ++ items ['o', '/', 'p']) =
      .ok [['p'], ['e']] := by
  have hitems : namesOf [['w']] ++ items ['o', '/', 'p'] =
      [.name ['w'], .name ['o'], .name ['p']] := by decide
  have htarget : items ['/', 'e'] = [.root, .name ['e']] := by decide
  have hlink : linkedWorkspace.readlink [['o'], ['w']] = some ['/', 'e'] := by decide
  rw [hitems, FileSystem.resolveItems_plain (by decide) (by decide),
    FileSystem.resolveItems_target (by decide) hlink rfl, htarget, List.cons_append,
    List.cons_append, List.nil_append, FileSystem.resolveItems,
    FileSystem.resolveItems_plain (by decide) (by decide), FileSystem.resolveItems,
    FileSystem.resolveItems_plain (by decide) (by decide), FileSystem.resolveItems]

theorem resolveItems_new :
    linkedWorkspace.resolveItems [] [] (namesOf [['w']] ++ items ['n']) = .ok [['n'], ['w']] := by
  have hitems : namesOf [['w']] ++ items ['n'] = [.name ['w'], .name ['n']] := by decide
  rw [hitems, FileSystem.resolveItems_plain (by decide) (by decide),
    FileSystem.resolveItems_plain (by decide) (by decide), FileSystem.resolveItems]

theorem meetsNoLoop_new : MeetsNoLoop linkedWorkspace [['w']] ['n'] := by
  intro hloop
  cases hloop.symm.trans resolveItems_new

/-- A write in the workspace, and a read through the link. -/
def linkedCalls : List FileCall :=
  [.writeFile [("path".toList, .str ['n']), ("content".toList, .str ['a', '\r', '\n'])],
    .readFile [("path".toList, .str ['o', '/', 'p'])]]

def allPrintable (_ : Char) : Bool := true

def loopError (_ : FileSystem) (_ : List Item) : Except FileError Path := .error .symlinkLoop

theorem linkedCalls_meetNoLoop : ∀ call ∈ linkedCalls,
    MeetsNoLoop linkedWorkspace [['w']] (call.path allPrintable) := by
  intro call hcall
  simp only [linkedCalls, List.mem_cons, List.not_mem_nil, or_false] at hcall
  rcases hcall with rfl | rfl
  · exact meetsNoLoop_new
  · intro hloop
    cases hloop.symm.trans resolveItems_linked

theorem fileCalls_confined_linked :
    (∀ path, (run (step allPrintable loopError linkedContext) linkedWorkspace
      linkedCalls).readlink path = linkedWorkspace.readlink path) ∧
    (∀ path, ¬ [['w']] <:+ path → (run (step allPrintable loopError linkedContext)
      linkedWorkspace linkedCalls).node? path = linkedWorkspace.node? path) ∧
    ∀ fs', AgreeBelow [['w']] linkedWorkspace fs' →
      results allPrintable loopError linkedContext fs' linkedCalls =
        results allPrintable loopError linkedContext linkedWorkspace linkedCalls :=
  fileCalls_confined workspaceAt_linked linkedCalls_meetNoLoop

variable (isPrintable onLoop context)

variable {isPrintable onLoop context}

end Calls

end NanoCore.Tools.Files
