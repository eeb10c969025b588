import NanoCore.Foundation.JsonText

namespace NanoCore.System.Specs

open NanoCore.Foundation.JsonText
open NanoCore.Foundation.PythonText

/-- Amounts in bytes; none where the machine does not tell. -/
structure MemoryInfo where
  totalBytes : Option Int
  availableBytes : Option Int
  deriving DecidableEq, Repr

/-- `value / unit` rounded half to even. -/
def roundedQuotient (value : Int) (unit : Nat) : Int :=
  let twice := 2 * (value % unit)
  if twice < unit ∨ twice = unit ∧ value / unit % 2 = 0 then value / unit else value / unit + 1

/-- The formats `.1f` of gigabytes and `.0f` of smaller units. -/
def formatBytes : Option Int → Text
  | none => "unknown".toList
  | some value =>
      if 1073741824 ≤ value then
        let tenths := roundedQuotient (10 * value) 1073741824
        intText (tenths / 10) ++ '.' :: intText (tenths % 10) ++ " GB".toList
      else if 1048576 ≤ value then intText (roundedQuotient value 1048576) ++ " MB".toList
      else intText (roundedQuotient value 1024) ++ " KB".toList

def memoryReserveBytes : Int := 1500000000

def kvBytesPerTokenEstimate : Int := 131072

/-- What the reserve and the file of the model, where there is one, leave. -/
def contextBudget (modelBytes : Option Nat) (availableBytes reserveBytes : Int) : Int :=
  availableBytes - reserveBytes - (modelBytes.getD 0 : Nat)

/-- The result is none also where the budget is used up. -/
def estimateMaxContextTokens (modelBytes : Option Nat) (availableBytes : Option Int)
    (reserveBytes kvBytesPerToken : Int) : Option Int :=
  match availableBytes with
  | none => none
  | some availableBytes =>
      let budget := contextBudget modelBytes availableBytes reserveBytes
      if budget ≤ 0 then none else some (max 0 (budget.fdiv kvBytesPerToken))

example : formatBytes (some 8000000000) = "7.5 GB".toList := by decide +kernel

end NanoCore.System.Specs
