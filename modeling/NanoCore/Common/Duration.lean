import NanoCore.Foundation.PythonRegex
import Mathlib.Data.List.Sort

namespace NanoCore.Common.Duration

open NanoCore.Foundation.PythonText
open NanoCore.Foundation.Regex
open NanoCore.Foundation.RegexSearch
open NanoCore.Foundation.PythonRegex

inductive DurationUnit where
  | seconds
  | minutes
  | hours
  deriving DecidableEq, Repr

/-- `_UNIT_ALIASES`, in the order in which both patterns try the aliases. -/
def unitAliases : List (String × DurationUnit) :=
  [("s", .seconds), ("sec", .seconds), ("secs", .seconds), ("second", .seconds),
   ("seconds", .seconds), ("m", .minutes), ("min", .minutes), ("mins", .minutes),
   ("minute", .minutes), ("minutes", .minutes), ("h", .hours), ("hr", .hours),
   ("hrs", .hours), ("hour", .hours), ("hours", .hours)]

def smallNumberWords : List (String × Nat) :=
  [("zero", 0), ("one", 1), ("two", 2), ("three", 3), ("four", 4), ("five", 5), ("six", 6),
   ("seven", 7), ("eight", 8), ("nine", 9), ("ten", 10), ("eleven", 11), ("twelve", 12),
   ("thirteen", 13), ("fourteen", 14), ("fifteen", 15), ("sixteen", 16), ("seventeen", 17),
   ("eighteen", 18), ("nineteen", 19)]

def tensNumberWords : List (String × Nat) :=
  [("twenty", 20), ("thirty", 30), ("forty", 40), ("fifty", 50), ("sixty", 60),
   ("seventy", 70), ("eighty", 80), ("ninety", 90)]

def lookupWord {β : Type} (table : List (String × β)) (w : Text) : Option β :=
  (table.find? fun entry => entry.1.toList == w).map Prod.snd

section Patterns

variable (u : PyData)

def unitPattern : Regex := .group "2" (litAlts (unitAliases.map Prod.fst))

def digitDurationPattern : Regex :=
  seqs [wordBoundary u, .group "1" (digits u), optSpaces, unitPattern, wordBoundary u]

/-- `\ban?\b`. -/
def articlePattern : Regex :=
  seqs [wordBoundary u, lit "a", opt (lit "n"), wordBoundary u]

def numberWordPattern : Regex :=
  .alt (articlePattern u) (.alt
    (litAlts (smallNumberWords.map Prod.fst ++ tensNumberWords.map Prod.fst ++
      ["hundred", "and", "-"]))
    space)

def wordDurationPattern : Regex :=
  seqs [wordBoundary u, .group "1" (plus true (numberWordPattern u)), optSpaces, unitPattern,
    wordBoundary u]

def unitOnlyPattern : Regex :=
  seqs [wordBoundary u, .group "1" (litAlts ["s", "m", "h"]), wordBoundary u]

def bareNumberPattern : Regex :=
  seqs [atStart, optSpaces, .group "1" (digits u), optSpaces, atEnd]

end Patterns

def groupText (groups : List (String × Text)) (name : String) : Text :=
  (groups.lookup name).getD []

def normalizeUnit (unit : Text) : Option DurationUnit := lookupWord unitAliases unit

def segmentToSeconds (value : Nat) : DurationUnit → Nat
  | .seconds => value
  | .minutes => value * 60
  | .hours => value * 3600

/-- The running value of `_words_to_number` after its tokens, or nothing at the
first token that is not a number word. -/
def addNumberWords : Nat → List Text → Option Nat
  | current, [] => some current
  | current, token :: rest =>
      if token = "a".toList ∨ token = "an".toList then addNumberWords (current + 1) rest
      else match lookupWord smallNumberWords token with
        | some n => addNumberWords (current + n) rest
        | none =>
            match lookupWord tensNumberWords token with
            | some n => addNumberWords (current + n) rest
            | none =>
                if token = "hundred".toList then
                  addNumberWords ((if current = 0 then 1 else current) * 100) rest
                else none

def wordsToNumber (raw : Text) : Option Nat :=
  let tokens := (splitWords (replaceChar '-' ' ' raw)).filter fun token => token != "and".toList
  if tokens.isEmpty then none
  else if tokens = ["a".toList] ∨ tokens = ["an".toList] then some 1
  else addNumberWords 0 tokens

structure Segment where
  value : Nat
  unit : DurationUnit
  start : Nat
  stop : Nat
  deriving DecidableEq, Repr

def overlaps (found : Found Char) (segment : Segment) : Bool :=
  !(found.stop ≤ segment.start || segment.stop ≤ found.start)

variable (u : PyData)

def digitSegments : List (Found Char) → Except PyError (List Segment)
  | [] => .ok []
  | found :: rest =>
      match normalizeUnit (groupText found.groups "2") with
      | none => digitSegments rest
      | some unit => do
          let value ← u.intOfDigits (groupText found.groups "1")
          let segments ← digitSegments rest
          return { value, unit, start := found.start, stop := found.stop } :: segments

/-- The word matches that overlap no segment found before them, appended. -/
def addWordSegments : List Segment → List (Found Char) → List Segment
  | segments, [] => segments
  | segments, found :: rest =>
      if segments.any (overlaps found) then addWordSegments segments rest
      else match wordsToNumber (groupText found.groups "1"),
          normalizeUnit (groupText found.groups "2") with
        | some value, some unit =>
            addWordSegments
              (segments ++ [{ value, unit, start := found.start, stop := found.stop }]) rest
        | _, _ => addWordSegments segments rest

def iterDurationSegments (message : Text) : Except PyError (List Segment) := do
  let lowered := u.lower message
  let segments ← digitSegments u (findAll (digitDurationPattern u) lowered)
  return (addWordSegments segments (findAll (wordDurationPattern u) lowered)).insertionSort
    fun a b => a.start ≤ b.start

def extractDurationSeconds (message : Text) (bareNumberUnit : Option DurationUnit := none) :
    Except PyError (Option Nat) := do
  let segments ← iterDurationSegments u message
  if segments ≠ [] then
    return some (segments.foldl
      (fun total segment => total + segmentToSeconds segment.value segment.unit) 0)
  let unitOnly := search (unitOnlyPattern u) (u.lower message)
  match unitOnly.bind fun found => normalizeUnit (groupText found.groups "1") with
  | some unit => return some (segmentToSeconds 1 unit)
  | none =>
      if bareNumberUnit = some .minutes then
        match matchPrefix (bareNumberPattern u) (strip message) with
        | some found => do
            let n ← u.intOfDigits (groupText found.groups "1")
            return some (n * 60)
        | none => return none
      else return none

variable {u} in
theorem extractDurationSeconds_lower {message : Text}
    (hlower : u.lower (u.lower message) = u.lower message) :
    extractDurationSeconds u (u.lower message) = extractDurationSeconds u message := by
  simp only [extractDurationSeconds, iterDurationSegments, hlower, reduceCtorEq, if_false]

def parseDurationToSeconds (raw : Text) : Except PyError Int := do
  let seconds ← extractDurationSeconds u raw
  return seconds.getD 0

def extractDurationArgs (message : Text) : Except PyError (Option PyDict) := do
  let seconds ← extractDurationSeconds u message
  return seconds.map fun n => [("duration_seconds", .int n)]

def durationSecondsFromToolArgs (args : PyDict) : Except PyError Int :=
  match args.lookup "duration_seconds" with
  | some value => u.intOfScalar value
  | none =>
      match args.lookup "duration_minutes" with
      | some value => do return (← u.intOfScalar value) * 60
      | none =>
          match args.lookup "duration_hours" with
          | some value => do return (← u.intOfScalar value) * 3600
          | none =>
              match args.lookup "duration_text" with
              | some value => parseDurationToSeconds u value.toText
              | none => .ok 0

def formatUnit (amount : Nat) (unit : String) : String :=
  toString amount ++ " " ++ unit ++ (if amount = 1 then "" else "s")

def humanizeDurationSeconds (totalSeconds : Int) : String :=
  if totalSeconds ≤ 0 then "less than a second"
  else
    let total := totalSeconds.toNat
    let hours := total / 3600
    let minutes := total % 3600 / 60
    let seconds := total % 3600 % 60
    let parts :=
      (if hours ≠ 0 then [formatUnit hours "hour"] else []) ++
        (if minutes ≠ 0 then [formatUnit minutes "minute"] else [])
    let parts := if seconds ≠ 0 ∨ parts = [] then parts ++ [formatUnit seconds "second"] else parts
    " and ".intercalate (parts.take 2)

/-- `humanize_duration_seconds` where `str` may refuse the text of an amount: an
integer of more digits than `int` reads.  Only the hours can be that many. -/
def humanizedDuration (totalSeconds : Int) : Except PyError Text :=
  if maxIntDigits < (Nat.toDigits 10 (totalSeconds.toNat / 3600)).length then .error .valueError
  else .ok (humanizeDurationSeconds totalSeconds).toList

example : extractDurationSeconds .ascii "set a 5 minute and thirty second timer".toList =
    .ok (some 330) := by decide +kernel

end NanoCore.Common.Duration
