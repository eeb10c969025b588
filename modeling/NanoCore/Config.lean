import NanoCore.Foundation.PythonText

namespace NanoCore.Config

open NanoCore.Foundation.PythonText

inductive VoicePlaybackMode where
  | local
  | browser
  | both
  deriving DecidableEq, Repr

structure Settings where
  appEnv : Text := "development".toList
  chatHistoryLimit : Nat := 12
  apiKey : Text := []
  autoUpdateBranch : Text := "main".toList
  autoUpdateInstall : Bool := false
  updateCheckEnabled : Bool := false
  rebootEnabled : Bool := false
  serviceRestartEnabled : Bool := false
  voicePlaybackMode : VoicePlaybackMode := .both

/-- The settings of the private notes, within their bounds. -/
structure InternalNoteSettings where
  retryIntervalSeconds : Int := 1800
  retryMaxIntervalSeconds : Int := 14400
  maxAttempts : Int := 5
  le_retryIntervalSeconds : 60 ≤ retryIntervalSeconds := by decide
  le_retryMaxIntervalSeconds : 300 ≤ retryMaxIntervalSeconds := by decide
  le_maxAttempts : 1 ≤ maxAttempts := by decide

end NanoCore.Config
