import NanoCore.Config

namespace NanoCore.Deploy.Update

open NanoCore.Config
open NanoCore.Foundation.PythonText

structure PullResult where
  updated : Bool
  message : Text
  deriving DecidableEq, Repr

structure UpdateCheckResult where
  behind : Bool
  commitsBehind : Int
  localSha : Text
  remoteSha : Text
  branch : Text
  message : Text
  deriving DecidableEq, Repr

structure CompletedProcess where
  returncode : Int := 0
  stdout : Text := []
  stderr : Text := []

/-- What running git gives during one call: a process, or the text of the
`OSError` that `subprocess.run` raises. -/
structure Git where
  run : List Text → Except Text CompletedProcess
  /-- The text of the `ValueError` for output that is no number. -/
  badNumber : Text → Text

def configuredBranch (settings : Settings) : Text :=
  let branch := strip settings.autoUpdateBranch
  if branch = [] then "main".toList else branch

def firstOutput (first second : Text) (default : String) : Text :=
  strip (if first ≠ [] then first else if second ≠ [] then second else default.toList)

def readGitOutput (git : Git) (args : List Text) : Except Text Text := do
  let result ← git.run args
  if result.returncode ≠ 0 then
    throw (firstOutput result.stderr result.stdout "git command failed")
  return strip result.stdout

variable (u : PyData) (settings : Settings) (git : Git)

def notBehind (message : Text) : UpdateCheckResult where
  behind := false
  commitsBehind := 0
  localSha := []
  remoteSha := []
  branch := configuredBranch settings
  message := message

def compareWithOrigin : Except Text UpdateCheckResult := do
  let branch := configuredBranch settings
  let remoteRef := "origin/".toList ++ branch
  let localSha ← readGitOutput git ["rev-parse".toList, "HEAD".toList]
  let remoteSha ← readGitOutput git ["rev-parse".toList, remoteRef]
  let countOutput ← readGitOutput git
    ["rev-list".toList, "--count".toList, "HEAD..".toList ++ remoteRef]
  match u.intOfText countOutput with
  | .error _ => throw (git.badNumber countOutput)
  | .ok commitsBehind =>
      return {
        behind := 0 < commitsBehind
        commitsBehind
        localSha
        remoteSha
        branch
        message :=
          if 0 < commitsBehind then
            (toString commitsBehind).toList ++ " commit(s) available on origin/".toList ++
              branch ++ ".".toList
          else "Already up to date.".toList }

def checkForUpdates : UpdateCheckResult :=
  match git.run ["fetch".toList, "origin".toList, configuredBranch settings] with
  | .error message => notBehind settings message
  | .ok fetch =>
      if fetch.returncode ≠ 0 then
        notBehind settings (firstOutput fetch.stderr fetch.stdout "git fetch failed")
      else
        match compareWithOrigin u settings git with
        | .error message => notBehind settings message
        | .ok result => result

def pullLatest : PullResult :=
  let branch := configuredBranch settings
  match git.run ["fetch".toList, "origin".toList, branch] with
  | .error message => ⟨false, message⟩
  | .ok fetch =>
      if fetch.returncode ≠ 0 then
        ⟨false, firstOutput fetch.stderr fetch.stdout "git fetch failed"⟩
      else
        match git.run ["merge".toList, "--ff-only".toList, "origin/".toList ++ branch] with
        | .error message => ⟨false, message⟩
        | .ok merge =>
            if merge.returncode ≠ 0 then
              ⟨false, firstOutput merge.stderr merge.stdout "git merge failed"⟩
            else
              let stdout := strip merge.stdout
              if hasSubstring "Already up to date".toList stdout then
                ⟨false, "Already up to date.".toList⟩
              else ⟨true, if stdout = [] then "Updated.".toList else stdout⟩

end NanoCore.Deploy.Update
